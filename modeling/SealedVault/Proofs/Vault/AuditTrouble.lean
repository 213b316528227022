import SealedVault.Proofs.Vault.Confidentiality

/-!
# Trouble with the audit logs

Whatever stands in the audit directory, requests are answered in the same way and do the same to the
records. The logs may be missing, hold lines that are not events, or be impossible to extend because
a file stands in the place of a directory or a directory in the place of a file.
-/

namespace SealedVault

open Layout (OfRecords auditPlace decidesRecords_ofRecords)

/-- Requests that are answered in the same way from related worlds, and keep them related, are so
one after the other. -/
theorem Session.answers_of_coupled {v : Vault} {R : World → World → Prop} {w w' : World}
    {requests : List Request} (hR : ∀ r ∈ requests, Coupled R (v.perform r)) (h : R w w') :
    (⟨v, w'⟩ : Session).answers requests = (⟨v, w⟩ : Session).answers requests ∧
      R ((⟨v, w⟩ : Session).run (requests.map .request)).world
        ((⟨v, w'⟩ : Session).run (requests.map .request)).world := by
  induction requests generalizing w w' with
  | nil => exact ⟨rfl, h⟩
  | cons r rest ih =>
    obtain ⟨hanswer, hrel⟩ := hR r List.mem_cons_self w w' h
    obtain ⟨hanswers, hrun⟩ := ih (fun r' hr' => hR r' (List.mem_cons_of_mem r hr')) hrel
    refine ⟨?_, hrun⟩
    rw [answers, answers, List.cons.injEq]
    exact ⟨hanswer, hanswers⟩

namespace Session

/-- Two worlds may differ in their disks alone, and these may have the same directories and files of
records and differ in all else. Then any requests but those for audit events have the same answers
in both worlds and leave the same directories and files of records. -/
theorem answers_eq_of_sameRecords (v : Vault) (w w' : World)
    (hsources : w' = { w with disk := w'.disk })
    (hroot : w.disk.find v.storage.layout.root = .ok .directory)
    (hroot' : w'.disk.find v.storage.layout.root = .ok .directory)
    (hrecords : ∀ place, v.storage.layout.OfRecords place →
      w'.disk.get? place = w.disk.get? place)
    (requests : List Request)
    (hrequests : ∀ r ∈ requests, ∀ caller date, r ≠ .auditEvents caller date) :
    (⟨v, w'⟩ : Session).answers requests = (⟨v, w⟩ : Session).answers requests ∧
      ∀ place, v.storage.layout.OfRecords place →
        ((⟨v, w'⟩ : Session).run (requests.map .request)).world.disk.get? place =
          ((⟨v, w⟩ : Session).run (requests.map .request)).world.disk.get? place := by
  have hsame := Storage.sameRecords_agreesOn (decidesRecords_ofRecords v.storage.layout)
  have hworlds : World.Related (v.storage.layout.AgreesOn v.storage.layout.OfRecords) w w' :=
    ⟨w'.disk, hsources, Layout.rooted_of_find hroot, Layout.rooted_of_find hroot', hrecords⟩
  obtain ⟨hanswers, d', hdisk, hagrees⟩ :=
    answers_of_coupled (fun r hr => hsame.coupled_perform (hrequests r hr)) hworlds
  refine ⟨hanswers, ?_⟩
  rw [hdisk]
  exact hagrees.get?_eq

/-- The disk of the sample session with a file in the place of the directory for a day's log. -/
def blockedDisk : Disk :=
  (sampleDisk.put? ["data", "audit"] "1970-01-01" (.file [])).getD sampleDisk

/-- The sample world with that disk. -/
def blockedWorld : World := { (sample .disabled).world with disk := blockedDisk }

theorem put?_blockedDisk :
    sampleDisk.put? ["data", "audit"] "1970-01-01" (.file []) = some blockedDisk :=
  Disk.put?_eq_some_getD (by decide +kernel)

/-- Where no event of the day can be noted, alice stores and reads claims as she does elsewhere. -/
theorem answers_eq_in_blockedWorld :
    (sample .disabled).vault.storage.LogWritable sampleInstant.date
        (sample .disabled).world.disk ∧
      ¬(sample .disabled).vault.storage.LogWritable sampleInstant.date blockedWorld.disk ∧
      (⟨(sample .disabled).vault, blockedWorld⟩ : Session).answers
          [.storeClaims ⟨"alice", .user⟩ "one", .readClaims ⟨"alice", .user⟩ "record-0"] =
        (⟨(sample .disabled).vault, (sample .disabled).world⟩ : Session).answers
          [.storeClaims ⟨"alice", .user⟩ "one", .readClaims ⟨"alice", .user⟩ "record-0"] := by
  have hsources : blockedWorld = { (sample .disabled).world with disk := blockedWorld.disk } := by
    simp only [blockedWorld]
  have hroot : (sample .disabled).world.disk.find (sample .disabled).vault.storage.layout.root =
      .ok .directory := by
    decide +kernel
  have hroot' : blockedWorld.disk.find (sample .disabled).vault.storage.layout.root =
      .ok .directory := by
    decide +kernel
  have hrecords (place : Place)
      (hplace : (sample .disabled).vault.storage.layout.OfRecords place) :
      blockedWorld.disk.get? place = (sample .disabled).world.disk.get? place := by
    simp only [blockedWorld, sample]
    rw [Disk.get?_of_put? put?_blockedDisk, if_neg]
    rintro rfl
    exact (decidesRecords_ofRecords _).not_audit ["1970-01-01"] hplace
  refine ⟨?_, ?_, ?_⟩
  · unfold Storage.LogWritable
    decide +kernel
  · unfold Storage.LogWritable
    decide +kernel
  · exact (answers_eq_of_sameRecords (sample .disabled).vault (sample .disabled).world
      blockedWorld hsources hroot hroot' hrecords
      [.storeClaims ⟨"alice", .user⟩ "one", .readClaims ⟨"alice", .user⟩ "record-0"] (by simp)).1

end Session

end SealedVault
