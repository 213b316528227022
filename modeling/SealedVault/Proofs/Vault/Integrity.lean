import SealedVault.Proofs.Store.Preparation
import SealedVault.Proofs.Vault.Sessions

/-!
# Integrity of the data directory

In every state that a session reaches, the directories of the kinds hold files of records and
nothing else: each is named by the id of its record, which has an owner and hangs on a document of
that owner or on none, and what is sealed was sealed under a key that was configured before.
-/

namespace SealedVault

open Layout (AuditOnly recordPlace recordPlace_injective)
open Sealing (MasterKey Payload Service checkOwner)
open Storage (PutsRecord RemovesRecord)

namespace Vault

variable {v : Vault} {base : Place} {d d' : Disk} {w : World} {kind : Kind}

/-- What a service protects is a plaintext as it is, or sealed under the key of the service. -/
theorem protect_eq_ok {service : Service} {initial : Cipher.Block} {owner plaintext : String}
    {payload : Payload} (h : service.protect initial owner plaintext = .ok payload) :
    checkOwner owner = .ok () ∧
      match service.masterKey with
      | none => payload = .plain plaintext
      | some key => ∃ stored, payload = .sealed stored ∧
          Service.IsSealing key owner initial plaintext stored := by
  have howner : checkOwner owner = .ok () := by
    rw [Service.protect, bind_eq_ok_iff] at h
    obtain ⟨u, hu, -⟩ := h
    exact hu
  refine ⟨howner, ?_⟩
  obtain ⟨masterKey⟩ := service
  cases masterKey with
  | none =>
    rw [show (⟨none⟩ : Service) = Service.disabled from rfl,
      Service.protect_of_disabled howner] at h
    cases h
    rfl
  | some key =>
    obtain ⟨stored, hstored, hsealing⟩ := Service.exists_protect key howner initial plaintext
    rw [hstored] at h
    cases h
    exact ⟨stored, rfl, hsealing⟩

/-- What holds of the records of a data directory, when `keys` are the keys that were configured. -/
structure Kept (s : Storage) (base : Place) (keys : List MasterKey) (d : Disk) : Prop where
  consistent : Consistent s base d
  file {kind : Kind} {name : String} {bytes : List UInt8} :
    d.get? (base ++ [kind.directory] ++ [name]) = some (.file bytes) →
      ∃ r : Record kind, name = r.id ++ ".json" ∧ s.shelf d kind r.id = some r
  owner {kind : Kind} {id : String} {r : Record kind} :
    s.shelf d kind id = some r → checkOwner r.owner = .ok ()
  sealedUnder {kind : Kind} {id : String} {r : Record kind} {stored : String} :
    s.shelf d kind id = some r → r.payload = .sealed stored →
      ∃ key ∈ keys, ∃ initial plaintext,
        Service.IsSealing key r.owner initial plaintext stored
  writable {kind : Kind} {id : String} {r : Record kind} :
    s.shelf d kind id = some r → s.layout.Writable kind

theorem Kept.mono {s : Storage} {keys more : List MasterKey} (h : Kept s base keys d)
    (hsub : keys ⊆ more) : Kept s base more d where
  consistent := h.consistent
  file := h.file
  owner := h.owner
  sealedUnder hr hpayload := by
    obtain ⟨key, hkey, hsealing⟩ := h.sealedUnder hr hpayload
    exact ⟨key, hsub hkey, hsealing⟩
  writable := h.writable

/-- Every file holds the record that is on the shelf under its name. -/
theorem Kept.exists_of_file {s : Storage} {keys : List MasterKey} (h : Kept s base keys d)
    {name : String} {bytes : List UInt8}
    (hfile : d.get? (base ++ [kind.directory] ++ [name]) = some (.file bytes)) :
    ∃ r : Record kind, name = r.id ++ ".json" ∧ s.shelf d kind r.id = some r ∧
      Record.ofBytes? kind bytes = some r := by
  obtain ⟨r, rfl, hr⟩ := h.file hfile
  obtain ⟨-, -, bytes', hfile', hbytes⟩ :=
    (Storage.shelf_eq_some_iff h.consistent.ready).mp hr
  rw [Layout.recordPlace, hfile] at hfile'
  cases hfile'
  exact ⟨r, rfl, hr, hbytes⟩

/-- Where no record appears, it is enough to look at the files. -/
theorem Kept.of_found {s : Storage} {keys : List MasterKey} (h : Kept s base keys d)
    (hconsistent : Consistent s base d')
    (hfound : ∀ {kind : Kind} {id : String} {r : Record kind},
      s.shelf d' kind id = some r → s.shelf d kind id = some r)
    (hfile : ∀ {kind : Kind} {name : String} {bytes : List UInt8},
      d'.get? (base ++ [kind.directory] ++ [name]) = some (.file bytes) →
        ∃ r : Record kind, name = r.id ++ ".json" ∧ s.shelf d' kind r.id = some r) :
    Kept s base keys d' where
  consistent := hconsistent
  file := hfile
  owner hr := h.owner (hfound hr)
  sealedUnder hr := h.sealedUnder (hfound hr)
  writable hr := h.writable (hfound hr)

/-- The key of the service is among some keys. -/
def KeyAmong (v : Vault) (keys : List MasterKey) : Prop :=
  ∀ key, v.service.masterKey = some key → key ∈ keys

/-- Putting a protected record on its shelf keeps the records of the data directory in order. -/
theorem Kept.of_puts {keys : List MasterKey} {r : Record kind}
    (h : Kept v.storage base keys d) (hkey : v.KeyAmong keys)
    (hconsistent : Consistent v.storage base d')
    (hvalid : isValidId r.id = true) (hfits : v.storage.layout.Fits kind r.id)
    (hwritable : v.storage.layout.Writable kind) (hprotects : v.Protects r.owner r.payload)
    (hputs : PutsRecord base r d d') : Kept v.storage base keys d' := by
  have hready := h.consistent.ready
  obtain ⟨initial, plaintext, hprotect⟩ := hprotects
  obtain ⟨howner, hpayload⟩ := protect_eq_ok hprotect
  refine ⟨hconsistent, ?_, ?_, ?_, ?_⟩
  · intro kind' name bytes hfile
    rw [hputs.get?_eq] at hfile
    split at hfile
    next hplace =>
      have hnames := List.append_inj' hplace rfl
      have hkind : kind' = kind := by
        have hdirectories := List.append_cancel_left hnames.1
        exact directory_injective (List.cons.inj hdirectories).1
      subst hkind
      exact ⟨r, (List.cons.inj hnames.2).1, hputs.shelf_self hready hvalid hfits⟩
    next hplace =>
      obtain ⟨r', rfl, hr'⟩ := h.file hfile
      refine ⟨r', rfl, ?_⟩
      rw [hputs.shelf_of_ne hready]
      · exact hr'
      · rintro ⟨rfl, heq⟩
        rw [heq] at hplace
        exact hplace rfl
  · intro kind' id r' hr'
    rcases eq_or_of_shelf_of_puts hready hvalid hfits hputs hr' with ⟨rfl, rfl, heq⟩ | ⟨-, hold⟩
    · rw [eq_of_heq heq]
      exact howner
    · exact h.owner hold
  · intro kind' id r' stored hr' hstored
    rcases eq_or_of_shelf_of_puts hready hvalid hfits hputs hr' with ⟨rfl, rfl, heq⟩ | ⟨-, hold⟩
    · rw [eq_of_heq heq] at hstored ⊢
      cases hmaster : v.service.masterKey with
      | none =>
        rw [hmaster, hstored] at hpayload
        cases hpayload
      | some key =>
        rw [hmaster, hstored] at hpayload
        obtain ⟨stored', hsame, hsealing⟩ := hpayload
        cases hsame
        exact ⟨key, hkey key hmaster, initial, plaintext, hsealing⟩
    · exact h.sealedUnder hold hstored
  · intro kind' id r' hr'
    rcases eq_or_of_shelf_of_puts hready hvalid hfits hputs hr' with ⟨rfl, rfl, -⟩ | ⟨-, hold⟩
    · exact hwritable
    · exact h.writable hold

/-- Every single effect keeps the records of the data directory in order. -/
theorem Effect.kept {keys : List MasterKey} (heffect : v.Effect base d d')
    (hkey : v.KeyAmong keys) (h : Kept v.storage base keys d) :
    Kept v.storage base keys d' := by
  have hready := h.consistent.ready
  have hconsistent := heffect.consistent h.consistent
  cases heffect with
  | note audit =>
    have hshelf (kind : Kind) (id : String) :
        v.storage.shelf d' kind id = v.storage.shelf d kind id :=
      shelf_of_auditOnly hready audit kind id
    refine h.of_found hconsistent (fun hr => by rwa [hshelf] at hr) ?_
    intro kind name bytes hfile
    rw [audit.frame] at hfile
    · obtain ⟨r, hname, hr⟩ := h.file hfile
      refine ⟨r, hname, ?_⟩
      rw [hshelf]
      exact hr
    · intro rest hplace
      simp [Layout.auditPlace, directory_ne_audit] at hplace
  | store r storable puts =>
    exact h.of_puts hkey hconsistent storable.valid storable.fits storable.writable
      storable.protects puts
  | replace old payload now present protects puts =>
    obtain ⟨hvalid, hfits⟩ := valid_and_fits_of_shelf hready present
    exact h.of_puts (r := old.setPayload payload now) hkey hconsistent hvalid hfits
      (h.writable present) protects puts
  | remove kind id free removes =>
    refine h.of_found hconsistent (fun hr => removes.shelf_of_shelf hready hr) ?_
    intro kind' name bytes hfile
    rw [removes.get?_eq] at hfile
    split at hfile
    · cases hfile
    next hplace =>
      obtain ⟨r', rfl, hr'⟩ := h.file hfile
      refine ⟨r', rfl, ?_⟩
      rw [removes.shelf_of_ne hready]
      · exact hr'
      · rintro ⟨rfl, heq⟩
        rw [heq] at hplace
        exact hplace rfl

theorem Effects.kept {keys : List MasterKey} (h : v.Effects base d d')
    (hkey : v.KeyAmong keys) (hd : Kept v.storage base keys d) :
    Kept v.storage base keys d' :=
  h.preserves (fun _ _ heffect => heffect.kept hkey) hd

end Vault

namespace Session

open Vault (Kept)

variable {s : Session} {base : Place} {keys : List MasterKey}

/-- The records of the session are in order, and its key is among those that were configured. -/
structure Sound (s : Session) (base : Place) (keys : List MasterKey) : Prop where
  kept : Kept s.vault.storage base keys s.world.disk
  key : s.vault.KeyAmong keys

/-- One step of a session keeps it sound, the keys of the step being added. -/
theorem Sound.after (h : s.Sound base keys) (step : Step) :
    (s.after step).Sound base (keys ++ newKeys step) := by
  cases step with
  | request r =>
    rw [newKeys, List.append_nil]
    exact ⟨(Vault.effects_perform h.kept.consistent r).kept h.key h.kept, h.key⟩
  | rekey service =>
    refine ⟨h.kept.mono (List.subset_append_left _ _), ?_⟩
    intro key hkey
    apply List.mem_append_right _
    rw [newKeys, show service.masterKey = some key from hkey]
    simp

/-- A whole run keeps a session sound. -/
theorem Sound.run (h : s.Sound base keys) (steps : List Step) :
    (s.run steps).Sound base (keys ++ steps.flatMap newKeys) := by
  induction steps generalizing s keys with
  | nil =>
    rw [List.flatMap_nil, List.append_nil]
    exact h
  | cons step steps ih =>
    rw [run_cons, List.flatMap_cons, ← List.append_assoc]
    exact ih (h.after step)

/-- No record is found in a data directory whose directories hold no files. -/
theorem shelf_eq_none_of_no_files {storage : Storage} {d : Disk}
    (hready : storage.ReadyAt base d)
    (hempty : ∀ kind : Kind, d.fileNames (base ++ [kind.directory]) = [])
    (kind : Kind) (id : String) : storage.shelf d kind id = none := by
  rw [Option.eq_none_iff_forall_ne_some]
  intro r hr
  obtain ⟨-, -, bytes, hfile, -⟩ := (Storage.shelf_eq_some_iff hready).mp hr
  have hname : id ++ ".json" ∈ d.fileNames (base ++ [kind.directory]) :=
    Disk.mem_fileNames.mpr ⟨bytes, hfile⟩
  rw [hempty kind] at hname
  cases hname

/-- A session that begins without records is sound. -/
theorem Begins.exists_sound (h : s.Begins) :
    ∃ base, s.Sound base s.vault.service.masterKey.toList ∧
      ∀ kind id, s.vault.storage.shelf s.world.disk kind id = none := by
  obtain ⟨layout, before, hprepare⟩ := h.prepared
  obtain ⟨-, -, base, hready⟩ := Storage.readyAt_of_prepare hprepare
  have hempty (kind : Kind) : s.world.disk.fileNames (base ++ [kind.directory]) = [] :=
    h.empty kind _ (Layout.find_kindDirectory hready.stands kind).1
  have hnone := shelf_eq_none_of_no_files hready hempty
  have hnever {kind : Kind} {id : String} {r : Record kind}
      (hr : s.vault.storage.shelf s.world.disk kind id = some r) : False := by
    rw [hnone] at hr
    cases hr
  have hkept : Kept s.vault.storage base s.vault.service.masterKey.toList s.world.disk := by
    refine ⟨⟨hready, fun hr => (hnever hr).elim, fun hr => (hnever hr).elim⟩, ?_,
      fun hr => (hnever hr).elim, fun hr => (hnever hr).elim, fun hr => (hnever hr).elim⟩
    intro kind name bytes hfile
    have hname : name ∈ s.world.disk.fileNames (base ++ [kind.directory]) :=
      Disk.mem_fileNames.mpr ⟨bytes, hfile⟩
    rw [hempty kind] at hname
    cases hname
  refine ⟨base, ⟨hkept, ?_⟩, hnone⟩
  intro key hkey
  rw [hkey]
  simp

/-- The file of a record is in order: it is named by the id of the record, which has an owner, hangs
on a document of that owner or on none, and is sealed under one of the keys if it is sealed. -/
structure IntactFile (s : Session) (keys : List MasterKey) (kind : Kind) (name : String)
    (r : Record kind) : Prop where
  name_eq : name = r.id ++ ".json"
  valid : isValidId r.id = true
  found : s.vault.storage.getRecord kind r.id s.world.disk = .ok r
  owner : Text.trim r.owner ≠ ""
  parent (documentId : String) : r.parent? = some documentId →
    ∃ document, s.vault.storage.getRecord .document documentId s.world.disk = .ok document ∧
      document.id = documentId ∧ document.owner = r.owner
  sealedUnder (stored : String) : r.payload = .sealed stored →
    ∃ key ∈ keys, ∃ initial plaintext, Service.IsSealing key r.owner initial plaintext stored

/-- In every state that a session reaches, every file in the directory of a kind holds a record of
that kind and is in order. -/
theorem intactFile_run (s : Session) (h : s.Begins) (steps : List Step) (kind : Kind) :
    ∃ place,
      (s.run steps).world.disk.locate ((s.run steps).vault.storage.layout.kindDirectory kind) =
          .ok place ∧
        ∀ name bytes, (s.run steps).world.disk.get? (place ++ [name]) = some (.file bytes) →
          ∃ r : Record kind, Record.ofBytes? kind bytes = some r ∧
            (s.run steps).IntactFile (s.keys steps) kind name r := by
  obtain ⟨base, hsound, -⟩ := h.exists_sound
  obtain ⟨hkept, -⟩ := hsound.run steps
  have hready := hkept.consistent.ready
  refine ⟨base ++ [kind.directory],
    (Layout.find_kindDirectory hready.stands kind).1, fun name bytes hfile => ?_⟩
  obtain ⟨r, rfl, hr⟩ := hkept.file hfile
  obtain ⟨hvalid, -, bytes', hfile', hbytes⟩ := (Storage.shelf_eq_some_iff hready).mp hr
  have hsame : bytes' = bytes := by
    rw [Layout.recordPlace, hfile] at hfile'
    cases hfile'
    rfl
  rw [hsame] at hbytes
  refine ⟨r, hbytes, rfl, hvalid, Storage.shelf_eq_some_iff_getRecord.mp hr,
    Sealing.ne_of_checkOwner (hkept.owner hr), ?_, fun stored => hkept.sealedUnder hr⟩
  intro documentId hparent
  obtain ⟨document, hdocument, howner⟩ := hkept.consistent.hangs hr hparent
  exact ⟨document, Storage.shelf_eq_some_iff_getRecord.mp hdocument,
    hkept.consistent.named hdocument, howner⟩

/-- The key that the second of two users finds configured. -/
def secondKey : MasterKey := ⟨List.replicate 32 5, by decide⟩

/-- Two users store claims, and the key is configured in between. -/
def twoUsers : List Step :=
  [.request (.storeClaims ⟨"alice", .user⟩ "Γειά"), .rekey ⟨some secondKey⟩,
    .request (.storeClaims ⟨"bob", .user⟩ "hello")]

/-- The claims in a file of the session that has run. -/
def claimsAfterTwoUsers (name : String) : Option (Record .claims) :=
  (((sample .disabled).run twoUsers).world.disk.fileAt? ["data", "claims", name]).bind
    (Record.ofBytes? .claims)

theorem files_twoUsers :
    ((sample .disabled).run twoUsers).world.disk.locate
        (((sample .disabled).run twoUsers).vault.storage.layout.kindDirectory .claims) =
          .ok ["data", "claims"] ∧
      ((sample .disabled).run twoUsers).world.disk.fileNames ["data", "claims"] =
        ["record-0.json", "record-1.json"] ∧
      (claimsAfterTwoUsers "record-0.json").map (fun r => (r.owner, r.payload)) =
        some ("alice", .plain "Γειά") ∧
      (claimsAfterTwoUsers "record-1.json").map (fun r => (r.owner, r.payload.protection)) =
        some ("bob", .sealed) := by
  decide +kernel

/-- The two files of their claims are in order. The first has the text as it is, the second is
sealed under the key. -/
theorem intactFile_run_of_two_users :
    (sample .disabled).Begins ∧
      ((sample .disabled).run twoUsers).world.disk.fileNames ["data", "claims"] =
        ["record-0.json", "record-1.json"] ∧
      (∃ r : Record .claims,
        ((sample .disabled).run twoUsers).IntactFile [secondKey] .claims "record-0.json" r ∧
          r.owner = "alice" ∧ r.payload = .plain "Γειά") ∧
      ∃ (r : Record .claims) (stored : String),
        ((sample .disabled).run twoUsers).IntactFile [secondKey] .claims "record-1.json" r ∧
          r.owner = "bob" ∧ r.payload = .sealed stored ∧
          ∃ initial plaintext, Service.IsSealing secondKey "bob" initial plaintext stored := by
  have hbegins := sample_begins .disabled
  obtain ⟨hlocated, hnames, hfirst, hsecond⟩ := files_twoUsers
  obtain ⟨place, hplace, hfiles⟩ := intactFile_run (sample .disabled) hbegins twoUsers .claims
  obtain rfl : ["data", "claims"] = place := Except.ok.inj (hlocated.symm.trans hplace)
  have hintact {name : String} {r : Record .claims} (h : claimsAfterTwoUsers name = some r) :
      ((sample .disabled).run twoUsers).IntactFile [secondKey] .claims name r := by
    obtain ⟨bytes, hbytes, hr⟩ := Option.bind_eq_some_iff.mp h
    obtain ⟨found, hfound, hintact⟩ := hfiles name bytes (Disk.fileAt?_eq_some_iff.mp hbytes)
    obtain rfl : found = r := Option.some.inj (hfound.symm.trans hr)
    exact hintact
  obtain ⟨r, hr, hfields⟩ := Option.map_eq_some_iff.mp hfirst
  obtain ⟨howner, hpayload⟩ := Prod.mk.inj hfields
  obtain ⟨r', hr', hfields'⟩ := Option.map_eq_some_iff.mp hsecond
  obtain ⟨howner', hprotection⟩ := Prod.mk.inj hfields'
  obtain ⟨stored, hstored⟩ : ∃ stored, r'.payload = .sealed stored := by
    cases hpayload' : r'.payload with
    | plain text =>
      rw [hpayload'] at hprotection
      cases hprotection
    | sealed stored => exact ⟨stored, rfl⟩
  refine ⟨hbegins, hnames, ⟨r, hintact hr, howner, hpayload⟩,
    r', stored, hintact hr', howner', hstored, ?_⟩
  obtain ⟨key, hkey, hsealed⟩ := (hintact hr').sealedUnder stored hstored
  obtain rfl := List.mem_singleton.mp hkey
  rwa [howner'] at hsealed

end Session

end SealedVault
