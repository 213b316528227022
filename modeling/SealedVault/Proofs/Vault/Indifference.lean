import SealedVault.Proofs.Vault.Integrity
import SealedVault.Proofs.Vault.Lockstep

/-!
# Indifference of the audit log

The audit log depends neither on what is stored nor on the key. Two sessions begin alike and go
through the same steps, each with its own texts, titles, content types, file names, initial blocks
and key. After every step their audit logs are the same, and the step fails in the one if and only
if it fails in the other, in the same way.
-/

namespace SealedVault

open Layout (AuditAt auditView)
open Sealing (MasterKey Service)

/-- A request without its texts, titles, content types and file names: what the audit log may depend
on. -/
def Request.outline : Request → Request
  | storeClaims caller _ => storeClaims caller ""
  | updateClaims caller id _ => updateClaims caller id ""
  | storeDocument caller _ _ _ => storeDocument caller "" "" ""
  | addPhoto caller documentId _ _ => addPhoto caller documentId "" ""
  | addAttachment caller documentId _ _ _ => addAttachment caller documentId "" "" ""
  | request => request

/-- From twin worlds, requests with the same outline fail in both vaults, in the same way, or in
neither, and they leave twin worlds. -/
theorem Vault.pairedRun_perform {key key' : MasterKey} {v v' : Vault} {base : Place} {w w' : World}
    (hv : v.Twin key key' v') (h : v.TwinWorlds base key key' w w')
    (hd : Consistent v.storage base w.disk) (request request' : Request)
    (houtline : request'.outline = request.outline) :
    PairedRun (v.TwinWorlds base key key') (fun _ _ => True) (v.perform request)
      (v'.perform request') w w' := by
  -- only requests of the same operation have the same outline
  cases request <;> cases request' <;> cases houtline
  case storeClaims.storeClaims.refl caller claims claims' =>
    exact (pairedRun_store hv h caller _ claims claims' fun _ => rfl).map fun _ _ _ => trivial
  case readClaims.readClaims.refl caller id =>
    exact (pairedRun_readOwn hv h .claims caller id).map fun _ _ _ => trivial
  case updateClaims.updateClaims.refl caller id claims claims' =>
    exact (pairedRun_updateClaims hv h caller id claims claims').map fun _ _ _ => trivial
  case deleteClaims.deleteClaims.refl caller id =>
    exact (pairedRun_deleteClaims hv h caller id).map fun _ _ _ => trivial
  case listClaims.listClaims.refl caller =>
    exact (pairedRun_listOwn hv h .claims caller).map fun _ _ _ => trivial
  case storeDocument.storeDocument.refl caller title contentType data title' contentType' data' =>
    refine (pairedRun_store hv h caller _ data data' ?_).map fun _ _ _ => trivial
    exact fun _ => rfl
  case readDocument.readDocument.refl caller id =>
    exact (pairedRun_readOwn hv h .document caller id).map fun _ _ _ => trivial
  case deleteDocument.deleteDocument.refl caller id =>
    exact (pairedRun_deleteDocument hv h caller id).map fun _ _ _ => trivial
  case listDocuments.listDocuments.refl caller =>
    exact (pairedRun_listOwn hv h .document caller).map fun _ _ _ => trivial
  case addPhoto.addPhoto.refl caller documentId contentType data contentType' data' =>
    refine (pairedRun_addHanging hv h .photo caller documentId data data' ?_).map
      fun _ _ _ => trivial
    exact fun _ _ hdocuments => congrArg some hdocuments.id_eq
  case readPhoto.readPhoto.refl caller id =>
    exact (pairedRun_readHanging hv h hd .photo caller id _ fun _ => rfl).map fun _ _ _ => trivial
  case listPhotos.listPhotos.refl caller documentId =>
    exact (pairedRun_listHanging hv h hd .photo caller documentId).map fun _ _ _ => trivial
  case addAttachment.addAttachment.refl caller documentId fileName contentType data
      fileName' contentType' data' =>
    refine (pairedRun_addHanging hv h .attachment caller documentId data data' ?_).map
      fun _ _ _ => trivial
    exact fun _ _ hdocuments => congrArg some hdocuments.id_eq
  case readAttachment.readAttachment.refl caller id =>
    exact (pairedRun_readHanging hv h hd .attachment caller id _ fun _ => rfl).map
      fun _ _ _ => trivial
  case listAttachments.listAttachments.refl caller documentId =>
    exact (pairedRun_listHanging hv h hd .attachment caller documentId).map fun _ _ _ => trivial
  case reseal.reseal.refl => exact (pairedRun_reseal hv h).map fun _ _ _ => trivial
  case auditEvents.auditEvents.refl caller date =>
    exact (pairedRun_auditEvents hv h caller date).map fun _ _ _ => trivial

/-! ## Sessions -/

/-- The same happens in both sessions: a request of the same outline is carried out, or the service
is replaced, with the key of the one and of the other or without a key. -/
inductive Step.Twin (key key' : MasterKey) : Step → Step → Prop
  | request {r r' : Request} (outline_eq : r'.outline = r.outline) :
      Step.Twin key key' (.request r) (.request r')
  | rekey {service service' : Service} (twin : Service.Twin key key' service service') :
      Step.Twin key key' (.rekey service) (.rekey service')

namespace Session

/-- Whether a step succeeds, and if not, how it fails. The service can always be replaced. -/
def outcome (s : Session) : Step → Except VaultError Unit
  | .request r => (s.answer r).map fun _ => ()
  | .rekey _ => .ok ()

/-- For each of some steps its outcome, and what stands in the audit directory after it. -/
def observations (s : Session) (base : Place) :
    List Step → List (Except VaultError Unit × (List String → Option Entry))
  | [] => []
  | step :: rest =>
    (s.outcome step, auditView base (s.after step).world.disk) ::
      (s.after step).observations base rest

variable {s s' : Session} {key key' : MasterKey} {keys : List MasterKey} {base : Place}

/-- The vaults of the sessions are twins in twin worlds, and the first session is sound. -/
structure Twin (key key' : MasterKey) (base : Place) (s s' : Session) : Prop where
  vault : s.vault.Twin key key' s'.vault
  world : s.vault.TwinWorlds base key key' s.world s'.world
  sound : ∃ keys, s.Sound base keys

/-- One step of twin sessions has one outcome, and they stay twins. -/
theorem Twin.after (h : s.Twin key key' base s') {step step' : Step}
    (hstep : Step.Twin key key' step step') :
    s'.outcome step' = s.outcome step ∧ (s.after step).Twin key key' base (s'.after step') := by
  obtain ⟨keys, hsound⟩ := h.sound
  have hsound_after := hsound.after step
  cases hstep with
  | @request r r' houtline =>
    obtain ⟨hresults, hworld⟩ :=
      Vault.pairedRun_perform h.vault h.world hsound.kept.consistent r r' houtline
    exact ⟨hresults.sameOutcome.symm, h.vault, hworld, _, hsound_after⟩
  | rekey htwin =>
    exact ⟨rfl, ⟨h.vault.storage_eq, htwin⟩,
      ⟨h.world.clock_eq, h.world.recordIds_eq, h.world.eventIds_eq, h.world.disk⟩, _, hsound_after⟩

/-- A whole run of twin sessions. -/
theorem Twin.observations_eq (h : s.Twin key key' base s') {steps steps' : List Step}
    (hsteps : List.Forall₂ (Step.Twin key key') steps steps') :
    s'.observations base steps' = s.observations base steps := by
  induction hsteps generalizing s s' with
  | nil => rfl
  | cons hstep _ ih =>
    obtain ⟨houtcome, htwin⟩ := h.after hstep
    rw [observations, observations, houtcome, htwin.world.disk.auditView_eq, ih htwin]

/-- Two sessions may begin in the same data directory without records, with the same clock and
sources of ids, each with its own source of initial blocks and its own key. Then from the same
steps, with any texts, titles, content types and file names in each session, the same is observed
in both: after every step the same stands in the audit directory, and the step succeeded in both or
failed in both in the same way. -/
theorem observations_eq_of_twin_steps (s s' : Session) (key key' : MasterKey) (hbegins : s.Begins)
    (hvault : s.vault.Twin key key' s'.vault)
    (hworld : s'.world = { s.world with initials := s'.world.initials })
    (steps steps' : List Step) (hsteps : List.Forall₂ (Step.Twin key key') steps steps') :
    ∃ base, s.vault.storage.layout.AuditAt base s.world.disk ∧
      s'.observations base steps' = s.observations base steps := by
  obtain ⟨base, hsound, hnone⟩ := hbegins.exists_sound
  have hready := hsound.kept.consistent.ready
  have hworlds : s.vault.TwinWorlds base key key' s.world s'.world := by
    rw [hworld]
    exact ⟨rfl, rfl, rfl, .of_no_records hready hnone⟩
  have htwin : s.Twin key key' base s' := ⟨hvault, hworlds, _, hsound⟩
  exact ⟨base, hready.auditReadyAt.stands, htwin.observations_eq hsteps⟩

/-- The session with another source of initial blocks. -/
def withInitials (s : Session) (initials : Source Cipher.Block) : Session :=
  { s with world := { s.world with initials } }

theorem withInitials_world (s : Session) (initials : Source Cipher.Block) :
    (s.withInitials initials).world =
      { s.world with initials := (s.withInitials initials).world.initials } := rfl

/-- Claims are stored before there is a key and a document after, what is not sealed is sealed, and
the claims are read with the key and without it. -/
def sampleSteps (key : MasterKey) (text title : String) : List Step :=
  [.request (.storeClaims ⟨"alice", .user⟩ text),
    .rekey ⟨some key⟩,
    .request (.storeDocument ⟨"alice", .user⟩ title "text/plain" text),
    .request .reseal,
    .request (.readClaims ⟨"alice", .user⟩ "record-0"),
    .rekey ⟨none⟩,
    .request (.readClaims ⟨"alice", .user⟩ "record-0"),
    .request (.auditEvents ⟨"carol", .auditor⟩ "1970-01-01")]

theorem twin_sampleSteps (key key' : MasterKey) (text text' title title' : String) :
    List.Forall₂ (Step.Twin key key') (sampleSteps key text title)
      (sampleSteps key' text' title') :=
  .cons (.request rfl) <| .cons (.rekey .keyed) <| .cons (.request rfl) <|
    .cons (.request rfl) <| .cons (.request rfl) <| .cons (.rekey .disabled) <|
    .cons (.request rfl) <| .cons (.request rfl) .nil

/-- Two keys, two texts, two titles and two sources of initial blocks. -/
theorem observations_eq_under_two_keys :
    (sample .disabled).Begins ∧
      List.Forall₂ (Step.Twin ⟨List.replicate 16 7, by decide⟩ ⟨List.replicate 24 9, by decide⟩)
        (sampleSteps ⟨List.replicate 16 7, by decide⟩ "Γειά" "one")
        (sampleSteps ⟨List.replicate 24 9, by decide⟩ "hello" "two") ∧
      ∃ base, (sample .disabled).vault.storage.layout.AuditAt base (sample .disabled).world.disk ∧
        ((sample .disabled).withInitials
            (.ofFunction fun n => ⟨⟨n.toUInt8, 1, 2, 3⟩, default, default, default⟩)).observations
              base (sampleSteps ⟨List.replicate 24 9, by decide⟩ "hello" "two") =
          (sample .disabled).observations base
            (sampleSteps ⟨List.replicate 16 7, by decide⟩ "Γειά" "one") := by
  have hbegins := sample_begins .disabled
  have hsteps := twin_sampleSteps ⟨List.replicate 16 7, by decide⟩
    ⟨List.replicate 24 9, by decide⟩ "Γειά" "hello" "one" "two"
  exact ⟨hbegins, hsteps,
    observations_eq_of_twin_steps (sample .disabled)
      ((sample .disabled).withInitials
        (.ofFunction fun n => ⟨⟨n.toUInt8, 1, 2, 3⟩, default, default, default⟩)) _ _
      hbegins ⟨rfl, .disabled⟩ (withInitials_world _ _) _ _ hsteps⟩

end Session

end SealedVault
