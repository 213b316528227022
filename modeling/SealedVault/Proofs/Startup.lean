import SealedVault.Proofs.Sealing.Classification
import SealedVault.Proofs.Settings
import SealedVault.Proofs.Store.Atomicity
import SealedVault.Proofs.Vault.Passes
import SealedVault.Startup

/-!
# Starting the program

With settings that cannot be used nothing is done. Otherwise the storage is opened, which makes
directories and touches no file but that of the health check. If records are to be sealed and there
is a key, one pass over the records follows, and that is all. Storage that was opened once can be
opened again, and then nothing changes. So can storage after a pass, because a pass keeps the
directories and leaves nothing where the health check writes. A second run therefore finds nothing
to make and nothing to seal.
-/

namespace SealedVault

open Disk (KeepsDirectories OnTheWay OnlyMakes)
open Layout (auditPlace recordPlace)

variable {l : Layout} {s : Storage} {d d' m : Disk} {settings : Settings}
  {lookup : String → Option String} {w w' w₁ : World}

/-! ## Storage that is open -/

namespace Layout

/-- The place of the file that the health check uses. -/
def healthPlace (l : Layout) : Place := l.base ++ [".health_check"]

theorem place_healthFile (s : Storage) : s.healthFile.place = s.layout.healthPlace :=
  Path.place_join ⟨by decide, by decide, by decide, by decide⟩ s.layout.root

theorem healthPlace_ne_auditPlace (l : Layout) (rest : List String) :
    l.healthPlace ≠ auditPlace l.base rest := by
  simp [healthPlace, auditPlace]

theorem healthPlace_ne_recordPlace (l : Layout) (kind : Kind) (id : String) :
    l.healthPlace ≠ recordPlace l.base kind id := by
  simp [healthPlace, recordPlace]

/-- The directories are there, and the health check can write its file, which is not there. -/
structure Opened (l : Layout) (d : Disk) : Prop where
  prepared : l.Prepared d
  free : d.get? l.healthPlace = none
  writable : ∃ m, d.writeFile (l.root.join ".health_check") Storage.healthData = .ok m

theorem opened_of_keepsDirectories (hprepared : l.Prepared d)
    (hwrite : d.writeFile (l.root.join ".health_check") Storage.healthData = .ok m)
    (hkeeps : KeepsDirectories d d') (hfree : d'.get? l.healthPlace = none) : l.Opened d' where
  prepared := hprepared.of_keepsDirectories hkeeps
  free := hfree
  writable := by
    have hplace : (l.root.join ".health_check").place = l.healthPlace :=
      place_healthFile ⟨l, true⟩
    exact Disk.exists_writeFile_of_keepsDirectories hkeeps (by rw [hplace, hfree]; simp) hwrite

theorem Opened.of_keepsDirectories (h : l.Opened d) (hkeeps : KeepsDirectories d d')
    (hfree : d'.get? l.healthPlace = none) : l.Opened d' := by
  obtain ⟨m, hwrite⟩ := h.writable
  exact opened_of_keepsDirectories h.prepared hwrite hkeeps hfree

/-- What opening the storage may change: the file of the health check may be gone, and what is new
are directories on the way to those that the storage needs. -/
structure OnlyOpens (l : Layout) (d d' : Disk) : Prop where
  files (q : Place) : d'.fileAt? q = d.fileAt? q ∨ q = l.healthPlace ∧ d'.fileAt? q = none
  directories : KeepsDirectories d d'
  made (q : Place) : d.get? q = none → d'.get? q ≠ none →
    d'.get? q = some .directory ∧ OnTheWay l.directories q

theorem onlyOpens_of_onlyMakes (h : OnlyMakes l.directories d d') : l.OnlyOpens d d' where
  files q := Or.inl (h.sameFiles q)
  directories := h.keepsDirectories
  made := h.made

/-- Directories are made, and then the file of the health check is taken away. -/
theorem onlyOpens_of_check (h : OnlyMakes l.directories d m) (hkeeps : KeepsDirectories m d')
    (hget : ∀ q, d'.get? q = if q = l.healthPlace then none else m.get? q) : l.OnlyOpens d d' := by
  refine ⟨fun q => ?_, h.keepsDirectories.trans hkeeps, fun q hnone hsome => ?_⟩
  · by_cases hq : q = l.healthPlace
    · refine Or.inr ⟨hq, ?_⟩
      rw [Disk.fileAt?, hget, if_pos hq]
    · rw [← h.sameFiles q]
      exact Or.inl (Disk.fileAt?_eq_of_get?_eq (by rw [hget, if_neg hq]))
  · rw [hget] at hsome ⊢
    split at hsome
    · exact absurd rfl hsome
    next hq =>
      rw [if_neg hq]
      exact h.made q hnone hsome

end Layout

namespace Storage

/-- On a disk where the storage is open the health check changes nothing. -/
theorem healthCheck_of_opened (h : l.Opened d) :
    (⟨l, true⟩ : Storage).healthCheck d = (.ok (), d) := by
  obtain ⟨m, hwrite⟩ := h.writable
  obtain ⟨d', hcheck, -, hget⟩ := healthCheck_of_writeFile (s := ⟨l, true⟩) rfl hwrite
  obtain rfl : d' = d := by
    ext q
    rw [hget, Layout.place_healthFile]
    by_cases hq : q = l.healthPlace
    · rw [if_pos hq, hq, h.free]
    · rw [if_neg hq]
  exact hcheck

/-- Storage can be prepared, and then its directories are there, or only some of them are made. -/
theorem prepare_cases (l : Layout) (d : Disk) :
    (∃ e d', (fresh l).prepare d = (.error e, d') ∧ OnlyMakes l.directories d d') ∨
      ∃ d', (fresh l).prepare d = (.ok ⟨l, true⟩, d') ∧ OnlyMakes l.directories d d' ∧
        l.Prepared d' := by
  have hmakes := (fresh l).makesOnly_prepare d
  rcases hprepare : (fresh l).prepare d with ⟨e | s, d'⟩
  · rw [hprepare] at hmakes
    exact Or.inl ⟨e, d', rfl, hmakes⟩
  · rw [hprepare] at hmakes
    obtain ⟨rfl, -, hprepared⟩ := prepared_of_prepare hprepare
    exact Or.inr ⟨d', rfl, hmakes, hprepared⟩

end Storage

namespace Settings

/-- Where the records are. -/
def layout (settings : Settings) : Layout := ⟨⟨settings.dataDirectory⟩⟩

/-- The vault over storage that has been prepared. -/
def vault (settings : Settings) : Vault := ⟨⟨settings.layout, true⟩, ⟨settings.masterKey⟩, rfl⟩

/-- Records are to be sealed at the start, and there is a key for it. -/
def SealsAtStart (settings : Settings) : Prop :=
  settings.resealLegacy = true ∧ settings.masterKey ≠ none

theorem SealsAtStart.isEnabled (h : settings.SealsAtStart) :
    settings.vault.service.isEnabled = true :=
  Option.isSome_iff_ne_none.mpr h.2

end Settings

namespace Startup

/-! ## The steps of a run -/

theorem openStorage_eq (settings : Settings) :
    openStorage settings = (do
      let storage ← Action.onDisk (Storage.prepare (.fresh settings.layout))
      Action.onDisk storage.healthCheck
      return storage) := rfl

/-- Where the storage is open afterwards, it is the storage of the vault. Opening it makes nothing
but directories, also where it fails. -/
theorem openStorage_cases (settings : Settings) (w : World) :
    (∃ e w₁, openStorage settings w = (.error e, w₁) ∧
        settings.layout.OnlyOpens w.disk w₁.disk) ∨
      ∃ w₁, openStorage settings w = (.ok settings.vault.storage, w₁) ∧
        settings.layout.OnlyOpens w.disk w₁.disk ∧ settings.layout.Opened w₁.disk := by
  rw [openStorage_eq]
  rcases Storage.prepare_cases settings.layout w.disk with
    ⟨e, d', hprepare, hmakes⟩ | ⟨m, hprepare, hmakes, hprepared⟩
  · rw [run_bind_of_error (Vault.onDisk_of_error hprepare)]
    exact Or.inl ⟨_, _, rfl, Layout.onlyOpens_of_onlyMakes hmakes⟩
  rw [run_bind_of_ok (Vault.onDisk_of_ok hprepare)]
  rcases Storage.healthCheck_cases settings.vault.storage m with
    ⟨e, hcheck⟩ | ⟨hready, filled, hwrite⟩
  · rw [run_bind_of_error (Vault.onDisk_of_error hcheck)]
    exact Or.inl ⟨_, _, rfl, Layout.onlyOpens_of_onlyMakes hmakes⟩
  · obtain ⟨d', hcheck, hkeeps, hget⟩ := Storage.healthCheck_of_writeFile hready hwrite
    rw [Layout.place_healthFile] at hget
    have hfree : d'.get? settings.layout.healthPlace = none := by
      rw [hget]
      exact if_pos rfl
    rw [run_bind_of_ok (Vault.onDisk_of_ok hcheck)]
    exact Or.inr ⟨_, rfl, Layout.onlyOpens_of_check hmakes hkeeps hget,
      Layout.opened_of_keepsDirectories hprepared hwrite hkeeps hfree⟩

/-- Opening storage that is open changes nothing. -/
theorem openStorage_of_opened (h : settings.layout.Opened w.disk) :
    openStorage settings w = (.ok settings.vault.storage, w) := by
  have hprepare := Vault.onDisk_of_ok (Storage.prepare_of_prepared h.prepared)
  have hcheck := Vault.onDisk_of_ok (Storage.healthCheck_of_opened h)
  rw [openStorage_eq, run_bind_of_ok hprepare, run_bind_of_ok hcheck]
  rfl

/-- The self-test has drawn its initial block. -/
def tested (w : World) : World := { w with initials := w.initials.rest }

theorem serve_of_open (h : openStorage settings w = (.ok settings.vault.storage, w₁)) :
    serve settings w =
      if settings.resealLegacy = true then
        ((settings.vault.reseal (tested w₁)).1.map fun _ => (),
          (settings.vault.reseal (tested w₁)).2)
      else (.ok (), tested w₁) := by
  have hinitial : Action.newInitial w₁ = (.ok w₁.initials.next, tested w₁) := rfl
  have htest : Action.sealing ((⟨settings.masterKey⟩ : Sealing.Service).selfTest w₁.initials.next)
      (tested w₁) = (.ok (), tested w₁) := by
    rw [Sealing.Service.selfTest_eq_ok]
    rfl
  have hvault : Action.ofExcept (Vault.ofStorage settings.vault.storage ⟨settings.masterKey⟩)
      (tested w₁) = (.ok settings.vault, tested w₁) := rfl
  rw [serve, run_bind_of_ok h, run_bind_of_ok hinitial, run_bind_of_ok htest,
    run_bind_of_ok hvault]
  by_cases hreseal : settings.resealLegacy = true
  · rw [if_pos hreseal, if_pos hreseal, run_bind]
    rcases settings.vault.reseal (tested w₁) with ⟨e | counts, w'⟩ <;> rfl
  · rw [if_neg hreseal, if_neg hreseal]
    rfl

/-! ## A run -/

/-- A pass leaves the storage open. -/
theorem opened_of_passed (hopened : settings.layout.Opened w.disk)
    (horder : settings.vault.storage.InOrder w.disk) (hpassed : settings.vault.Passed w w') :
    settings.layout.Opened w'.disk := by
  obtain ⟨hkeeps, hsame⟩ := hpassed.keeps horder
  refine hopened.of_keepsDirectories hkeeps ?_
  rw [hsame settings.layout.healthPlace (Layout.healthPlace_ne_auditPlace _)
    (Layout.healthPlace_ne_recordPlace _)]
  exact hopened.free

section

variable (hlookup : Settings.ofLookup lookup = .ok settings)
include hlookup

theorem run_of_not_open {e : VaultError} (h : openStorage settings w = (.error e, w₁)) :
    run lookup w = (notReady, w₁) := by
  have hserve : serve settings w = (.error e, w₁) := run_bind_of_error h
  rw [run, hlookup]
  simp only [hserve]

theorem run_of_not_seals (hidle : ¬settings.SealsAtStart)
    (h : openStorage settings w = (.ok settings.vault.storage, w₁)) :
    run lookup w = (ready, tested w₁) := by
  have hserve : serve settings w = (.ok (), tested w₁) := by
    rw [serve_of_open h]
    by_cases hreseal : settings.resealLegacy = true
    · have hdisabled : settings.vault.service.isEnabled = false := by
        rw [← Bool.not_eq_true]
        exact fun henabled => hidle ⟨hreseal, Option.isSome_iff_ne_none.mp henabled⟩
      rw [if_pos hreseal, Vault.reseal_of_disabled hdisabled]
      rfl
    · rw [if_neg hreseal]
  rw [run, hlookup]
  simp only [hserve]

theorem run_of_seals (hseals : settings.SealsAtStart)
    (h : openStorage settings w = (.ok settings.vault.storage, w₁)) :
    run lookup w =
      (if (settings.vault.reseal (tested w₁)).1.isOk then ready else notReady,
        (settings.vault.reseal (tested w₁)).2) := by
  have hserve := serve_of_open h
  rw [if_pos hseals.1] at hserve
  rw [run, hlookup]
  rcases hreseal : settings.vault.reseal (tested w₁) with ⟨e | counts, w'⟩
  · rw [hreseal] at hserve
    simp only [hserve]
    rfl
  · rw [hreseal] at hserve
    simp only [hserve]
    rfl

/-- Where each record is found under its own id, the run is a pass. -/
theorem exists_run_passed (hseals : settings.SealsAtStart)
    (h : openStorage settings w = (.ok settings.vault.storage, w₁))
    (horder : settings.vault.storage.InOrder w₁.disk) :
    ∃ w', run lookup w = (ready, w') ∧ settings.vault.Passed (tested w₁) w' := by
  obtain ⟨w', hreseal, hpassed⟩ := Vault.exists_passed (w := tested w₁) hseals.isEnabled horder
  refine ⟨w', ?_, hpassed⟩
  rw [run_of_seals hlookup hseals h, hreseal]
  rfl

/-- After a pass a run finds the storage open, and nothing that is due. -/
theorem run_after_pass (hseals : settings.SealsAtStart) (hopened : settings.layout.Opened w.disk)
    (horder : settings.vault.storage.InOrder w.disk) (hpassed : settings.vault.Passed w w₁)
    (hdisk : w'.disk = w₁.disk) :
    (run lookup w').1.success = true ∧
      settings.layout.KeepsFiles w'.disk (run lookup w').2.disk := by
  obtain ⟨hafter, hnone, -⟩ := hpassed.leaves horder
  have hstill := opened_of_passed hopened horder hpassed
  rw [← hdisk] at hafter hnone hstill
  obtain ⟨w₂, hrun, hagain⟩ :=
    exists_run_passed hlookup hseals (openStorage_of_opened hstill) hafter
  rw [hrun]
  exact ⟨rfl, fun place houtside =>
    hagain.kept houtside fun kind id hdue => absurd hdue (hnone kind id)⟩

end

/-! ## All runs -/

/-- What a run with valid settings does. -/
structure Runs (lookup : String → Option String) (settings : Settings) (w : World) : Prop where
  /-- Unless records are to be sealed and there is a key, the run opens the storage, and no more. -/
  idle : ¬settings.SealsAtStart →
    settings.layout.OnlyOpens w.disk (run lookup w).2.disk ∧
      ((run lookup w).1.success = true ↔ ∃ s w₁, openStorage settings w = (.ok s, w₁))
  /-- Nothing else is done either where the storage cannot be opened. -/
  failed {e : VaultError} {w₁ : World} : openStorage settings w = (.error e, w₁) →
    (run lookup w).1.success = false ∧ (run lookup w).2 = w₁ ∧
      settings.layout.OnlyOpens w.disk w₁.disk
  /-- Otherwise one pass is made over the records of the open storage. -/
  pass {s : Storage} {w₁ : World} : settings.SealsAtStart →
    openStorage settings w = (.ok s, w₁) →
      s = settings.vault.storage ∧ settings.layout.OnlyOpens w.disk w₁.disk ∧
        (run lookup w).2 = (settings.vault.reseal (tested w₁)).2
  /-- If each record is found under the id that it holds, the run succeeds whether or not all
  records could be sealed, and so does any later run on the disk that it leaves, which changes no
  file outside the audit directory. -/
  settles {s : Storage} {w₁ : World} : settings.SealsAtStart →
    openStorage settings w = (.ok s, w₁) →
      (∀ {kind : Kind} {id : String} {r : Record kind},
        s.getRecord kind id w₁.disk = .ok r → r.id = id) →
        (run lookup w).1.success = true ∧
          ∀ w', w'.disk = (run lookup w).2.disk → (run lookup w').1.success = true ∧
            settings.layout.KeepsFiles w'.disk (run lookup w').2.disk

theorem runs_of_ofLookup (hlookup : Settings.ofLookup lookup = .ok settings) (w : World) :
    Runs lookup settings w := by
  rcases openStorage_cases settings w with ⟨e, w₁, hopen, honly⟩ | ⟨w₁, hopen, honly, hopened⟩
  · have hrun := run_of_not_open hlookup hopen
    constructor
    case idle =>
      intro _
      rw [hrun, hopen]
      exact ⟨honly, iff_of_false Bool.false_ne_true (by rintro ⟨s, w', hok⟩; cases hok)⟩
    case failed =>
      intro e' w' hfails
      rw [hopen] at hfails
      cases hfails
      rw [hrun]
      exact ⟨rfl, rfl, honly⟩
    case pass =>
      intro s w' _ hok
      rw [hopen] at hok
      cases hok
    case settles =>
      intro s w' _ hok
      rw [hopen] at hok
      cases hok
  · constructor
    case idle =>
      intro hidle
      rw [run_of_not_seals hlookup hidle hopen, hopen]
      exact ⟨honly, iff_of_true rfl ⟨_, _, rfl⟩⟩
    case failed =>
      intro e' w' hfails
      rw [hopen] at hfails
      cases hfails
    case pass =>
      intro s w' hseals hok
      rw [hopen] at hok
      cases hok
      rw [run_of_seals hlookup hseals hopen]
      exact ⟨rfl, honly, rfl⟩
    case settles =>
      intro s w' hseals hok hnamed
      rw [hopen] at hok
      cases hok
      have horder : settings.vault.storage.InOrder w₁.disk :=
        ⟨fun kind => hopened.prepared _ (Layout.kindDirectory_mem _ kind), hnamed⟩
      obtain ⟨w₂, hrun, hpassed⟩ := exists_run_passed hlookup hseals hopen horder
      rw [hrun]
      exact ⟨rfl, fun w' hdisk =>
        run_after_pass hlookup hseals (w := tested w₁) hopened horder hpassed hdisk⟩

/-- Settings that cannot be used end the run, and nothing is done. With valid settings a run opens
the storage, where it makes directories and touches no file but that of the health check, and makes
one pass over the records if it is told to and has a key. What it leaves a later run leaves as it
is. -/
theorem startup_is_safe_and_repeatable (lookup : String → Option String) (w : World) :
    (∀ e, Settings.ofLookup lookup = .error e →
        (run lookup w).1.success = false ∧ (run lookup w).2 = w) ∧
      ∀ settings, Settings.ofLookup lookup = .ok settings → Runs lookup settings w := by
  refine ⟨fun e hlookup => ?_, fun settings hlookup => runs_of_ofLookup hlookup w⟩
  rw [run, hlookup]
  exact ⟨rfl, rfl⟩

/-- What the sample environment says when its log format is known. -/
def sampleSettings : Settings := ⟨"/data", some ⟨List.replicate 16 0, by decide⟩, true, .pretty⟩

theorem ofLookup_sampleEnvironment :
    Settings.ofLookup (Settings.sampleEnvironment "pretty") = .ok sampleSettings := by
  decide +kernel

theorem opened_photoWorld : sampleSettings.layout.Opened Vault.photoWorld.disk := by
  have hwrite : (Vault.photoWorld.disk.writeFile (sampleSettings.layout.root.join ".health_check")
      Storage.healthData).isOk = true := by
    decide +kernel
  refine ⟨?_, by decide +kernel, ?_⟩
  · unfold Layout.Prepared
    decide +kernel
  · cases h : Vault.photoWorld.disk.writeFile (sampleSettings.layout.root.join ".health_check")
        Storage.healthData with
    | ok m => exact ⟨m, rfl⟩
    | error fault =>
      rw [h] at hwrite
      cases hwrite

theorem storage_travelSession :
    Vault.travelSession.vault.storage = sampleSettings.vault.storage := by
  decide +kernel

/-- A log format that is unknown stops the program at once. Else one pass is made over the travel
records, and a run on the disk that it leaves changes no file of a record. -/
theorem travel_records_sealed_at_startup :
    ((run (Settings.sampleEnvironment "ｊｓｏｎ") Vault.photoWorld).1.success = false ∧
        (run (Settings.sampleEnvironment "ｊｓｏｎ") Vault.photoWorld).2 = Vault.photoWorld) ∧
      (run (Settings.sampleEnvironment "pretty") Vault.photoWorld).1.success = true ∧
      (run (Settings.sampleEnvironment "pretty") Vault.photoWorld).2 =
        (sampleSettings.vault.reseal (tested Vault.photoWorld)).2 ∧
      ∀ w, w.disk = (run (Settings.sampleEnvironment "pretty") Vault.photoWorld).2.disk →
        (run (Settings.sampleEnvironment "pretty") w).1.success = true ∧
          sampleSettings.layout.KeepsFiles w.disk
            (run (Settings.sampleEnvironment "pretty") w).2.disk := by
  have hinvalid : Settings.ofLookup (Settings.sampleEnvironment "ｊｓｏｎ") =
      .error (.invalid "LOG_FORMAT" "unknown log format `ｊｓｏｎ`") := by
    decide +kernel
  have hseals : sampleSettings.SealsAtStart := ⟨rfl, by simp [sampleSettings]⟩
  have hopen := openStorage_of_opened opened_photoWorld
  have horder := Vault.inOrder_photoWorld
  rw [storage_travelSession] at horder
  obtain ⟨hstops, -⟩ :=
    startup_is_safe_and_repeatable (Settings.sampleEnvironment "ｊｓｏｎ") Vault.photoWorld
  obtain ⟨-, hvalid⟩ :=
    startup_is_safe_and_repeatable (Settings.sampleEnvironment "pretty") Vault.photoWorld
  have hruns := hvalid sampleSettings ofLookup_sampleEnvironment
  obtain ⟨-, -, hpass⟩ := hruns.pass hseals hopen
  obtain ⟨hsuccess, hagain⟩ := hruns.settles hseals hopen horder.named
  exact ⟨hstops _ hinvalid, hsuccess, hpass, hagain⟩

end Startup

end SealedVault
