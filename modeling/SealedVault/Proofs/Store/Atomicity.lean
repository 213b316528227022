import SealedVault.Proofs.Vault.Confinement
import SealedVault.Proofs.Store.WorkingFiles

/-!
# Operations that fail change no file

Whatever the disk holds, an operation on storage that fails leaves every entry as it was; only
directories on the way to the file that it was to write may be new. Before the storage is
initialized only its initialization does anything. A file that is replaced is the only one that
changes, and it does not matter to that how its working file is called: nothing of that name
remains.
-/

namespace SealedVault

open Disk (KeepsDirectories)

variable {α β : Type} {d d' d'' : Disk} {paths : List Path} {p : Path} {bytes : List UInt8}

/-! ## Making directories on the way -/

namespace Disk

/-- The place is passed on the way to one of the paths, or is where it leads. -/
def OnTheWay (paths : List Path) (q : Place) : Prop :=
  ∃ p ∈ paths, ∃ front, front <+: p.names ∧ q = follow [] front

/-- Every entry stays, and what is new are directories on the way to the paths. -/
structure OnlyMakes (paths : List Path) (d d' : Disk) : Prop where
  kept (q : Place) : d.get? q ≠ none → d'.get? q = d.get? q
  made (q : Place) : d.get? q = none → d'.get? q ≠ none →
    d'.get? q = some .directory ∧ OnTheWay paths q

theorem OnlyMakes.refl (paths : List Path) (d : Disk) : OnlyMakes paths d d :=
  ⟨fun _ _ => rfl, fun _ hnone hsome => absurd hnone hsome⟩

theorem OnlyMakes.trans (h : OnlyMakes paths d d') (h' : OnlyMakes paths d' d'') :
    OnlyMakes paths d d'' := by
  constructor
  · intro q hq
    rw [h'.kept q (by rwa [h.kept q hq]), h.kept q hq]
  · intro q hnone hsome
    by_cases hbetween : d'.get? q = none
    · exact h'.made q hbetween hsome
    · rw [h'.kept q hbetween]
      exact h.made q hnone hbetween

theorem OnlyMakes.mono {more : List Path} (h : OnlyMakes paths d d') (hsub : paths ⊆ more) :
    OnlyMakes more d d' := by
  refine ⟨h.kept, fun q hnone hsome => ?_⟩
  obtain ⟨hdirectory, p, hp, hway⟩ := h.made q hnone hsome
  exact ⟨hdirectory, p, hsub hp, hway⟩

theorem OnlyMakes.keepsDirectories (h : OnlyMakes paths d d') : KeepsDirectories d d' := by
  intro q hq
  rw [h.kept q (by rw [hq]; simp), hq]

/-- In particular no file has changed, and none is new. -/
theorem OnlyMakes.sameFiles (h : OnlyMakes paths d d') : SameFiles d d' := by
  intro q
  by_cases hq : d.get? q = none
  · rw [fileAt?, fileAt?, hq]
    by_cases hq' : d'.get? q = none
    · rw [hq']
    · rw [(h.made q hq hq').1]
  · exact fileAt?_eq_of_get?_eq (h.kept q hq)

/-- A walk that makes directories leaves nothing new but directories at the places it passes. -/
theorem get?_makeAlong {through last : Fault} {place q : Place} {names : List String}
    (h : (makeAlong through last place names d).2.get? q ≠ d.get? q) :
    d.get? q = none ∧ (makeAlong through last place names d).2.get? q = some .directory ∧
      ∃ front, front <+: names ∧ q = follow place front := by
  induction names generalizing through last place d with
  | nil => exact absurd rfl h
  | cons name rest ih =>
    have hlonger {front : List String} {here : Place}
        (hhere : here = if name = ".." then place.dropLast else place ++ [name])
        (hfront : front <+: rest) (hq : q = follow here front) :
        ∃ front, front <+: name :: rest ∧ q = follow place front :=
      ⟨name :: front, List.cons_prefix_cons.mpr ⟨rfl, hfront⟩, by rw [hq, hhere, follow]⟩
    rw [makeAlong] at h ⊢
    split at h
    next hdots =>
      rw [if_pos hdots]
      obtain ⟨hnone, hdirectory, front, hfront, hq⟩ := ih h
      exact ⟨hnone, hdirectory, hlonger (if_pos hdots).symm hfront hq⟩
    next hdots =>
      have hhere : place ++ [name] = if name = ".." then place.dropLast else place ++ [name] :=
        (if_neg hdots).symm
      rw [if_neg hdots]
      split at h
      · exact absurd rfl h
      next hshort =>
        rw [if_neg hshort]
        cases hget : d.get? (place ++ [name]) with
        | some e =>
          rw [hget] at h
          cases e with
          | file content => exact absurd rfl h
          | directory =>
            obtain ⟨hnone, hdirectory, front, hfront, hq⟩ := ih h
            exact ⟨hnone, hdirectory, hlonger hhere hfront hq⟩
        | none =>
          rw [hget] at h
          cases hput : d.put? place name .directory with
          | none =>
            simp only [hput] at h
            exact absurd rfl h
          | some m =>
            simp only [hput] at h ⊢
            have hm := get?_of_put? hput q
            by_cases hmore : (makeAlong .fileExists .fileExists (place ++ [name]) rest m).2.get? q =
                m.get? q
            · by_cases hq : q = place ++ [name]
              · rw [if_pos hq] at hm
                refine ⟨by rw [hq, hget], by rw [hmore, hm], ?_⟩
                exact hlonger hhere List.nil_prefix hq
              · rw [if_neg hq] at hm
                exact absurd (hmore.trans hm) h
            · obtain ⟨hnone, hdirectory, front, hfront, hq⟩ := ih hmore
              refine ⟨?_, hdirectory, hlonger hhere hfront hq⟩
              by_cases hsame : q = place ++ [name]
              · rw [hsame, hget]
              · rwa [hm, if_neg hsame] at hnone

theorem onlyMakes_makeDirectory (p : Path) (d : Disk) :
    OnlyMakes [p] d (makeDirectory p d).2 := by
  have halong {through last : Fault} {names : List String} (hnames : names <+: p.names) :
      OnlyMakes [p] d (makeAlong through last [] names d).2 := by
    constructor
    · intro q hsome
      exact Classical.byContradiction fun hne => hsome (get?_makeAlong hne).1
    · intro q hnone hsome
      obtain ⟨-, hdirectory, front, hfront, hq⟩ := get?_makeAlong (by rwa [hnone])
      exact ⟨hdirectory, p, List.mem_singleton.mpr rfl, front, hfront.trans hnames, hq⟩
  unfold makeDirectory
  split
  · exact .refl _ d
  split
  · exact halong (List.dropLast_prefix _)
  · exact halong List.prefix_rfl

end Disk

open Disk (OnlyMakes)

/-! ## Actions that fail -/

namespace DiskAction

/-- Whether it fails or not, the action makes only directories on the way to the paths. -/
def MakesOnly (paths : List Path) (a : DiskAction α) : Prop :=
  ∀ d, OnlyMakes paths d (a d).2

/-- When it fails, the action has made only directories on the way to the paths. -/
def SparesFiles (paths : List Path) (a : DiskAction α) : Prop :=
  ∀ d e d', a d = (.error e, d') → OnlyMakes paths d d'

theorem MakesOnly.sparesFiles {a : DiskAction α} (h : MakesOnly paths a) :
    SparesFiles paths a := by
  intro d e d' hfails
  have hmakes := h d
  rwa [hfails] at hmakes

theorem MakesOnly.bind {a : DiskAction α} {f : α → DiskAction β} (h : MakesOnly paths a)
    (hnext : ∀ x, MakesOnly paths (f x)) : MakesOnly paths (a >>= f) :=
  fun d => run_bind_rel (R := OnlyMakes paths) (fun _ _ _ => OnlyMakes.trans) (h d)
    fun x t _ => hnext x t

theorem SparesFiles.bind {a : DiskAction α} {f : α → DiskAction β} (h : MakesOnly paths a)
    (hnext : ∀ x, SparesFiles paths (f x)) : SparesFiles paths (a >>= f) := by
  intro d e d' hfails
  have hmakes := h d
  rcases run_bind_eq_error_iff.mp hfails with hfirst | ⟨x, m, hfirst, hlast⟩
  · rwa [hfirst] at hmakes
  · rw [hfirst] at hmakes
    exact hmakes.trans (hnext x m e d' hlast)

theorem SparesFiles.map {a : DiskAction α} (h : SparesFiles paths a) (f : α → β) :
    SparesFiles paths (f <$> a) := by
  intro d e d' hfails
  rw [run_map] at hfails
  cases hfirst : a d with
  | mk result m =>
    rw [hfirst] at hfails
    cases result with
    | ok x => cases hfails
    | error e' =>
      cases hfails
      exact h d e m hfirst

theorem makesOnly_ask (paths : List Path) (f : Disk → Except StorageError α) :
    MakesOnly paths (ask f) :=
  fun d => .refl paths d

theorem makesOnly_make (p : Path) : MakesOnly [p] (make (Disk.makeDirectory p)) :=
  Disk.onlyMakes_makeDirectory p

theorem sparesFiles_change (paths : List Path) (f : Disk → Except Disk.Fault Disk) :
    SparesFiles paths (change f) := by
  intro d e d' hfails
  rw [change] at hfails
  split at hfails
  · cases hfails
  · cases hfails
    exact .refl paths d

/-- The action leaves the disk as it is. -/
def KeepsDisk (a : DiskAction α) : Prop := ∀ d, (a d).2 = d

theorem keepsDisk_ask (f : Disk → Except StorageError α) : KeepsDisk (ask f) := fun _ => rfl

theorem KeepsDisk.map {a : DiskAction α} (h : KeepsDisk a) (f : α → β) : KeepsDisk (f <$> a) := by
  intro d
  rw [run_map, h d]

theorem KeepsDisk.bind {a : DiskAction α} {f : α → DiskAction β} (h : KeepsDisk a)
    (hnext : ∀ x, KeepsDisk (f x)) : KeepsDisk (a >>= f) :=
  fun d => (run_bind_rel (R := Eq) (fun _ _ _ => Eq.trans) (h d).symm
    fun x m _ => (hnext x m).symm).symm

end DiskAction

open DiskAction (KeepsDisk MakesOnly SparesFiles)

/-! ## Requests to the store -/

/-- What can be asked of storage: files at any path, records, and audit logs. What a file is decoded
to is open. -/
inductive StoreRequest (α : Type) where
  | prepare
  | checkHealth
  | decode (reading : List UInt8 → Option α) (p : Path)
  | readBytes (p : Path)
  | listStems (p : Path) (suffix : String)
  | replace (p : Path) (bytes : List UInt8)
  | write (p : Path) (bytes : List UInt8)
  | append (p : Path) (bytes : List UInt8)
  | delete (p : Path)
  | records (request : RecordRequest)
  | audit (request : AuditRequest)

/-- What such a request is answered with. -/
inductive StoreAnswer (α : Type) where
  | prepared (s : Storage)
  | done
  | decoded (a : α)
  | bytes (bytes : List UInt8)
  | stems (stems : List String)
  | records (answer : RecordAnswer)
  | events (events : List Audit.Event)

namespace Storage

variable {s : Storage} {kind : Kind}

/-- Carries out a request. -/
def carryOut (s : Storage) : StoreRequest α → DiskAction (StoreAnswer α)
  | .prepare => .prepared <$> s.prepare
  | .checkHealth => (fun _ => .done) <$> s.healthCheck
  | .decode reading p => .decoded <$> DiskAction.ask (s.readWith reading p)
  | .readBytes p => .bytes <$> DiskAction.ask (s.readBytes p)
  | .listStems p suffix => .stems <$> DiskAction.ask (s.listStems p suffix)
  | .replace p bytes => (fun _ => .done) <$> s.replace p bytes
  | .write p bytes => (fun _ => .done) <$> s.write p bytes
  | .append p bytes => (fun _ => .done) <$> s.append p bytes
  | .delete p => (fun _ => .done) <$> s.delete p
  | .records request => .records <$> s.serve request
  | .audit request => .events <$> s.serveAudit request

/-- The directories that a request makes if they are missing. -/
def directoriesFor (s : Storage) : StoreRequest α → List Path
  | .prepare => s.layout.directories
  | .replace p _ => [p.parent]
  | .write p _ => [p.parent]
  | .append p _ => [p.parent]
  | .records (.create kind r) => [(s.layout.record kind r.id).parent]
  | .records (.update kind r) => [(s.layout.record kind r.id).parent]
  | .audit (.log e) => [(Audit.logPath s e.timestamp.date).parent]
  | _ => []

/-! ### Failures -/

theorem makesOnly_makeAll (paths : List Path) : MakesOnly paths (makeAll paths) := by
  induction paths with
  | nil => exact fun d => .refl [] d
  | cons p rest ih =>
    refine MakesOnly.bind (fun d => ?_) fun _ d => ?_
    · exact (DiskAction.makesOnly_make p d).mono (by simp)
    · exact (ih d).mono (List.subset_cons_self p rest)

theorem makesOnly_prepare (s : Storage) : MakesOnly s.layout.directories s.prepare :=
  (makesOnly_makeAll _).bind fun _ d => .refl _ d

theorem sparesFiles_make_change (s : Storage) (p : Path) (f : Disk → Except Disk.Fault Disk) :
    SparesFiles [p.parent] (do
      DiskAction.ask fun _ => s.checkReady
      DiskAction.make (Disk.makeParent p)
      DiskAction.change f) :=
  .bind (DiskAction.makesOnly_ask _ _) fun _ => .bind (DiskAction.makesOnly_make _) fun _ =>
    DiskAction.sparesFiles_change _ f

theorem sparesFiles_delete (s : Storage) (p : Path) : SparesFiles [] (s.delete p) :=
  .bind (DiskAction.makesOnly_ask _ _) fun _ => DiskAction.sparesFiles_change _ _

/-- Where its file can be written, the health check leaves the disk without that file. -/
theorem healthCheck_of_writeFile (hready : s.initialized = true)
    (hwrite : d.writeFile s.healthFile healthData = .ok d') :
    ∃ d'', s.healthCheck d = (.ok (), d'') ∧ KeepsDirectories d d'' ∧
      ∀ q, d''.get? q = if q = s.healthFile.place then none else d.get? q := by
  have hask : DiskAction.ask (fun _ => s.checkReady) d = (.ok (), d) := by
    rw [DiskAction.ask, checkReady, if_pos hready]
  obtain ⟨-, hlocate, hwants, -⟩ := Disk.writeFile_eq_ok_iff.mp hwrite
  obtain ⟨front, name, hplace, hput⟩ := Disk.put?_of_writeFile hwrite
  have hget := Disk.get?_of_put? hput
  have hkeeps := Disk.keepsDirectories_of_put? hput
  rw [← hplace] at hget
  -- what was written is read, so there is a file to take away and nothing to complain about
  have hread : d'.readFile s.healthFile = .ok healthData :=
    Disk.readFile_eq_ok_iff.mpr
      ⟨Disk.locate_of_keepsDirectories hkeeps hlocate, hwants, by rw [hget, if_pos rfl]⟩
  obtain ⟨d'', hremove, hgone⟩ := Disk.exists_removeFile hread
  refine ⟨d'', ?_, hkeeps.trans (Disk.keepsDirectories_of_removeFile? hgone), fun q => ?_⟩
  · rw [healthCheck, run_bind_of_ok hask]
    simp only [run_bind, DiskAction.ask, hwrite, hread, DiskAction.change, hremove,
      Except.mapError]
    rw [if_neg (by simp)]
    rfl
  · rw [Disk.get?_of_removeFile? hgone, hget]
    split <;> rfl

/-- The health check fails only where its file cannot be written, and then does nothing. -/
theorem healthCheck_cases (s : Storage) (d : Disk) :
    (∃ e, s.healthCheck d = (.error e, d)) ∨
      s.initialized = true ∧ ∃ d', d.writeFile s.healthFile healthData = .ok d' := by
  rcases ask_cases (a := s.healthCheck) rfl d with ⟨e, hfails⟩ | ⟨_, hready, hrun⟩
  · exact Or.inl ⟨e, hfails⟩
  rw [hrun, run_bind, DiskAction.change]
  cases hwrite : d.writeFile s.healthFile healthData with
  | error fault => exact Or.inl ⟨_, rfl⟩
  | ok d' =>
    refine Or.inr ⟨?_, d', rfl⟩
    by_contra hunready
    rw [checkReady, if_neg hunready] at hready
    cases hready

theorem sparesFiles_healthCheck (s : Storage) : SparesFiles [] s.healthCheck := by
  intro d e d' hfails
  rcases s.healthCheck_cases d with ⟨e', h⟩ | ⟨hready, m, hwrite⟩
  · rw [hfails] at h
    cases h
    exact .refl [] d
  · obtain ⟨d'', h, -⟩ := healthCheck_of_writeFile hready hwrite
    rw [hfails] at h
    cases h

/-- A file that is looked for first is replaced only where it was looked for. -/
theorem sparesFiles_ask_replace {f : Disk → Except StorageError Path} {p : Path}
    (hf : ∀ d q, f d = .ok q → q = p) (bytes : List UInt8) :
    SparesFiles [p.parent] (DiskAction.ask f >>= fun q => s.replace q bytes) := by
  intro d e d' hfails
  rcases ask_cases (a := DiskAction.ask f >>= fun q => s.replace q bytes) rfl d with
    ⟨e', h⟩ | ⟨q, hq, hrun⟩
  · rw [hfails] at h
    cases h
    exact .refl _ d
  · obtain rfl := hf d q hq
    rw [hrun] at hfails
    exact s.sparesFiles_make_change q _ d e d' hfails

theorem sparesFiles_serve (s : Storage) (request : RecordRequest) :
    SparesFiles (s.directoriesFor (α := α) (.records request)) (s.serve request) := by
  cases request with
  | create kind r =>
    have hcreate : SparesFiles [(s.layout.record kind r.id).parent] (s.createRecord r) :=
      sparesFiles_ask_replace (fun _ _ hpath => (eq_record_of_absentPath hpath).2) _
    exact hcreate.map _
  | update kind r =>
    have hupdate : SparesFiles [(s.layout.record kind r.id).parent] (s.updateRecord r) :=
      sparesFiles_ask_replace (fun _ _ hpath => (eq_record_of_presentPath hpath).2) _
    exact hupdate.map _
  | delete kind id =>
    have hdelete : SparesFiles [] (s.deleteRecord kind id) :=
      .bind (DiskAction.makesOnly_ask _ _) fun p => s.sparesFiles_delete p
    exact hdelete.map _
  | _ => exact (DiskAction.makesOnly_ask _ _).sparesFiles.map _

theorem sparesFiles_serveAudit (s : Storage) (request : AuditRequest) :
    SparesFiles (s.directoriesFor (α := α) (.audit request)) (s.serveAudit request) := by
  cases request with
  | log e => exact (s.sparesFiles_make_change (Audit.logPath s e.timestamp.date) _).map _
  | _ => exact (DiskAction.makesOnly_ask _ _).sparesFiles

theorem sparesFiles_carryOut (s : Storage) (request : StoreRequest α) :
    SparesFiles (s.directoriesFor request) (s.carryOut request) := by
  cases request with
  | prepare => exact s.makesOnly_prepare.sparesFiles.map _
  | checkHealth => exact s.sparesFiles_healthCheck.map _
  | replace p bytes => exact (s.sparesFiles_make_change p _).map _
  | write p bytes => exact (s.sparesFiles_make_change p _).map _
  | append p bytes => exact (s.sparesFiles_make_change p _).map _
  | delete p => exact (s.sparesFiles_delete p).map _
  | records request => exact (s.sparesFiles_serve (α := α) request).map _
  | audit request => exact (s.sparesFiles_serveAudit (α := α) request).map _
  | _ => exact (DiskAction.makesOnly_ask _ _).sparesFiles.map _

/-! ### Storage that is not initialized -/

theorem keepsDisk_of_unready (hready : s.initialized = false) (next : Unit → DiskAction β) :
    KeepsDisk (DiskAction.ask (fun _ => s.checkReady) >>= next) := by
  intro d
  rcases ask_cases rfl d with ⟨e, hfails⟩ | ⟨_, hok, -⟩
  · rw [hfails]
  · rw [checkReady, hready] at hok
    cases hok

theorem keepsDisk_serve (hready : s.initialized = false) (request : RecordRequest) :
    KeepsDisk (s.serve request) := by
  cases request with
  | create kind r =>
    have hcreate : KeepsDisk (s.createRecord r) :=
      (DiskAction.keepsDisk_ask _).bind fun _ => keepsDisk_of_unready hready _
    exact hcreate.map _
  | update kind r =>
    have hupdate : KeepsDisk (s.updateRecord r) :=
      (DiskAction.keepsDisk_ask _).bind fun _ => keepsDisk_of_unready hready _
    exact hupdate.map _
  | delete kind id =>
    have hdelete : KeepsDisk (s.deleteRecord kind id) :=
      (DiskAction.keepsDisk_ask _).bind fun _ => keepsDisk_of_unready hready _
    exact hdelete.map _
  | _ => exact (DiskAction.keepsDisk_ask _).map _

theorem keepsDisk_carryOut (hready : s.initialized = false) {request : StoreRequest α}
    (hrequest : request ≠ .prepare) : KeepsDisk (s.carryOut request) := by
  cases request with
  | prepare => exact absurd rfl hrequest
  | checkHealth => exact (keepsDisk_of_unready hready _).map _
  | replace p bytes => exact (keepsDisk_of_unready hready _).map _
  | write p bytes => exact (keepsDisk_of_unready hready _).map _
  | append p bytes => exact (keepsDisk_of_unready hready _).map _
  | delete p => exact (keepsDisk_of_unready hready _).map _
  | records request => exact (keepsDisk_serve hready request).map _
  | audit request =>
    cases request with
    | log e => exact ((keepsDisk_of_unready hready _).map _).map _
    | _ => exact (DiskAction.keepsDisk_ask _).map _
  | _ => exact (DiskAction.keepsDisk_ask _).map _

/-! ### Replacing a file -/

/-- The file at the end of the path has the bytes, and nothing else has changed but for directories
that were missing on the way to it. -/
structure Replaces (p : Path) (bytes : List UInt8) (d d' : Disk) : Prop where
  read : d'.readFile p = .ok bytes
  target : d'.get? p.place = some (.file bytes)
  not_directory : d.get? p.place ≠ some .directory
  kept (q : Place) : q ≠ p.place → d.get? q ≠ none → d'.get? q = d.get? q
  made (q : Place) : q ≠ p.place → d.get? q = none → d'.get? q ≠ none →
    d'.get? q = some .directory ∧ Disk.OnTheWay [p.parent] q
  no_other_file (q : Place) : q ≠ p.place → d'.fileAt? q = d.fileAt? q

theorem replaces_of_replaceFile {p : Path}
    (h : (Disk.makeParent p d).2.replaceFile p bytes = .ok d') : Replaces p bytes d d' := by
  have hmakes := Disk.onlyMakes_makeDirectory p.parent d
  rw [← Disk.makeParent] at hmakes
  obtain ⟨front, name, hplace, hput⟩ := Disk.put?_of_replaceFile h
  have hget := Disk.get?_of_put? hput
  have hbefore := Disk.ne_directory_of_put? hput
  rw [← hplace] at hget hbefore
  refine ⟨Disk.readFile_of_replaceFile h, by rw [hget, if_pos rfl], ?_, ?_, ?_, ?_⟩
  · intro hdirectory
    exact hbefore (by rw [hmakes.kept _ (by rw [hdirectory]; simp), hdirectory])
  · intro q hq hsome
    rw [hget, if_neg hq, hmakes.kept q hsome]
  · intro q hq hnone hsome
    rw [hget, if_neg hq] at hsome ⊢
    exact hmakes.made q hnone hsome
  · intro q hq
    rw [← hmakes.sameFiles q]
    exact Disk.fileAt?_eq_of_get?_eq (by rw [hget, if_neg hq])

theorem replaces_of_replace {p : Path} (h : s.replace p bytes d = (.ok (), d')) :
    Replaces p bytes d d' := by
  rcases make_change_cases (a := s.replace p bytes) rfl d with ⟨e, m, hfails, -⟩ | ⟨m, hok, hchange⟩
  · rw [h] at hfails
    cases hfails
  · rw [h] at hok
    cases hok
    exact replaces_of_replaceFile hchange

/-- A name that is free when the working file is made is free afterwards. -/
theorem get?_replace_of_free {p : Path} {q : Place} (hq : q ≠ p.place)
    (hfree : (Disk.makeParent p d).2.get? q = none) : (s.replace p bytes d).2.get? q = none := by
  rcases make_change_cases (a := s.replace p bytes) rfl d with
    ⟨e, m, hfails, rfl | rfl⟩ | ⟨d', hok, hchange⟩
  · rw [hfails]
    refine Classical.byContradiction fun hsome => hsome ?_
    rw [← (Disk.onlyMakes_makeDirectory p.parent m).kept q hsome]
    exact hfree
  · rw [hfails]
    exact hfree
  · obtain ⟨front, name, hplace, hput⟩ := Disk.put?_of_replaceFile hchange
    rw [hok, Disk.get?_of_put? hput, ← hplace, if_neg hq, hfree]

/-- A request that fails leaves every entry of the disk as it was, and makes no more than
directories. Storage that is not initialized does nothing but initialize. A file that is replaced is
the only one that changes, and it is the same to replace it by way of a working file: whatever free
name that gets, it is free again afterwards. -/
theorem failed_requests_change_no_file (s : Storage) (d : Disk) :
    (∀ {α : Type} (request : StoreRequest α) (e : StorageError) (d' : Disk),
        s.carryOut request d = (.error e, d') →
          OnlyMakes (s.directoriesFor request) d d' ∧ Disk.SameFiles d d') ∧
      (s.initialized = false → ∀ {α : Type} (request : StoreRequest α), request ≠ .prepare →
        (s.carryOut request d).2 = d) ∧
      (∀ p bytes d', s.replace p bytes d = (.ok (), d') → Replaces p bytes d d') ∧
      ∀ working p bytes, IsWorkingName working → p.place ≠ (p.parent.join working).place →
        (Disk.makeParent p d).2.get? (p.parent.join working).place = none →
          s.replaceThrough working p bytes d = s.replace p bytes d ∧
            (s.replaceThrough working p bytes d).2.get? (p.parent.join working).place = none := by
  refine ⟨fun request e d' hfails => ?_, fun hready _ request hrequest => ?_,
    fun p bytes d' => replaces_of_replace, fun working p bytes hworking hne hfree => ?_⟩
  · have hmakes := s.sparesFiles_carryOut request d e d' hfails
    exact ⟨hmakes, hmakes.sameFiles⟩
  · exact keepsDisk_carryOut hready hrequest d
  · rw [replaceThrough_eq hworking hne hfree]
    exact ⟨rfl, get?_replace_of_free hne.symm hfree⟩

/-- On an empty disk nothing can be replaced at the end of a path that ends in a dot, and a note can
be replaced by way of any working file. -/
theorem note_replaced_on_empty_disk :
    (∃ e d', (⟨⟨⟨"/data"⟩⟩, true⟩ : Storage).carryOut (α := Unit) (.replace ⟨"/a/b/."⟩ [1])
        .empty = (.error e, d') ∧ OnlyMakes [⟨"/a"⟩] .empty d') ∧
      ((Storage.fresh ⟨⟨"/data"⟩⟩).carryOut (α := Unit) (.write ⟨"/note"⟩ [1]) .empty).2 = .empty ∧
      ∃ d', (⟨⟨⟨"/data"⟩⟩, true⟩ : Storage).replace ⟨"/note"⟩ [1, 2] .empty = (.ok (), d') ∧
        Replaces ⟨"/note"⟩ [1, 2] .empty d' ∧
        (⟨⟨⟨"/data"⟩⟩, true⟩ : Storage).replaceThrough Disk.workingName ⟨"/note"⟩ [1, 2] .empty =
          (.ok (), d') := by
  obtain ⟨hfailing, -, hreplaces, hthrough⟩ :=
    failed_requests_change_no_file ⟨⟨⟨"/data"⟩⟩, true⟩ .empty
  obtain ⟨-, hunready, -⟩ := failed_requests_change_no_file (.fresh ⟨⟨"/data"⟩⟩) .empty
  refine ⟨?_, hunready rfl (.write ⟨"/note"⟩ [1]) (by simp), ?_⟩
  · refine ⟨_, _, rfl, ?_⟩
    exact (hfailing (α := Unit) (.replace ⟨"/a/b/."⟩ [1]) _ _ rfl).1
  · have hthere := hthrough Disk.workingName ⟨"/note"⟩ [1, 2] isWorkingName_workingName (by decide)
      (by rfl)
    refine ⟨_, rfl, hreplaces _ _ _ rfl, ?_⟩
    rw [hthere.1]
    rfl

end Storage

end SealedVault
