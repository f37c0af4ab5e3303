import BuildAdmission.Proofs.Storage.RecordFile

namespace BuildAdmission

open Codec

/-- Every value that is sent or stored is read back from its text. A file of records holds the list
that was last written to it, and a configuration only has to pass its check. -/
theorem formats_recover :
    (WorkUnit.codec.Recovers ∧ WorkUnit.codec.list.Recovers ∧ LaunchTask.codec.Recovers ∧
      SplitPlan.codec.Recovers ∧ LevelViolation.codec.Recovers ∧ Thresholds.codec.Recovers ∧
      BudgetDecision.codec.Recovers ∧ ResumeContext.codec.Recovers ∧
      StatusSummary.codec.Recovers ∧ UnitReport.codec.Recovers ∧ AuditEvent.codec.Recovers ∧
      LaunchRequest.codec.Recovers ∧ LaunchResponse.codec.Recovers ∧
      UnitStatusResponse.codec.Recovers ∧ Health.codec.Recovers ∧ Config.codec.Recovers) ∧
    (∀ (f : RecordFile) (t t' : FileTree) (units : List WorkUnit),
      f.flush t units = (.ok (), t') → f.load t' = .ok units) ∧
    ∀ c : Config, Config.ofText (Config.codec.encodeText c) = c.check.map fun _ => c := by
  refine ⟨⟨WorkUnit.codec_faithful.recovers, (list_faithful WorkUnit.codec_faithful).recovers,
    LaunchTask.codec_faithful.recovers, SplitPlan.codec_faithful.recovers,
    LevelViolation.codec_faithful.recovers, Thresholds.codec_faithful.recovers,
    BudgetDecision.codec_faithful.recovers, ResumeContext.codec_faithful.recovers,
    StatusSummary.codec_faithful.recovers, UnitReport.codec_faithful.recovers,
    AuditEvent.codec_faithful.recovers, LaunchRequest.codec_faithful.recovers,
    LaunchResponse.codec_faithful.recovers, UnitStatusResponse.codec_faithful.recovers,
    Health.codec_faithful.recovers, Config.codec_faithful.recovers⟩, ?_, ?_⟩
  · exact fun _ _ _ _ => RecordFile.load_flush
  · exact Config.ofText_encodeText

def extremeUnit : WorkUnit :=
  ⟨"caf\u00e9 \"\\\n\u2028", .application, .checkpointed, .minValue, .ofNat (UInt64.size - 1),
    .ofList ["b", "a"], .ofNat (UInt32.size - 1), true⟩

theorem formats_recover_flushed : ∃ t',
    RecordFile.flush ⟨"units.json"⟩ .empty [extremeUnit] = (.ok (), t') ∧
      RecordFile.load ⟨"units.json"⟩ t' = .ok [extremeUnit] := by
  have flushed : RecordFile.flush ⟨"units.json"⟩ .empty [extremeUnit] =
      (.ok (), (RecordFile.flush ⟨"units.json"⟩ .empty [extremeUnit]).2) :=
    Prod.ext (by decide +kernel) rfl
  exact ⟨_, flushed, formats_recover.2.1 _ _ _ _ flushed⟩

end BuildAdmission
