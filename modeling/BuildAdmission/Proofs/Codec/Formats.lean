import BuildAdmission.Config.Basic
import BuildAdmission.Graph.Split
import BuildAdmission.Proofs.Codec.Variant
import BuildAdmission.Request

namespace BuildAdmission

open Codec

/-! ### Names and levels -/

theorem Level.codec_faithful : codec.Faithful where
  lossless l := by
    have bounds : (0 : Int) ≤ (l.rank : Int) ∧ (l.rank : Int) < 256 := by cases l <;> decide
    have read : (Codec.range 0 256 Int.toNat Int.ofNat).decode (.nat l.rank) = .ok l.rank :=
      decode_range bounds
    have level : ofRank? l.rank = some l := by cases l <;> rfl
    rw [codec]
    dsimp only
    rw [read, Except.ok_bind, level]
    rfl
  legible l := .number (JsonNumber.ofInt_decimal l.rank)

theorem Status.codec_faithful : codec.Faithful :=
  names_faithful (fun s => by cases s <;> decide) (by decide)

theorem Tier.codec_faithful : codec.Faithful :=
  names_faithful (fun t => by cases t <;> decide) (by decide)

theorem BudgetAction.codec_faithful : codec.Faithful :=
  names_faithful (fun a => by cases a <;> decide) (by decide)

theorem AuditAction.codec_faithful : codec.Faithful :=
  names_faithful (fun a => by cases a <;> decide) (by decide)

/-! ### Units and plans -/

theorem WorkUnit.codec_faithful : codec.Faithful :=
  iso_faithful (record_faithful <| .required text_faithful (by decide) <|
    .required Level.codec_faithful (by decide) <| .required Status.codec_faithful (by decide) <|
    .required int32_faithful (by decide) <| .required uint64_faithful (by decide) <|
    .optional idSet_faithful (by decide) <| .optional uint32_faithful (by decide) <|
    .sparse bool_faithful (by decide) .nil) fun _ => rfl

theorem LaunchTask.codec_faithful : codec.Faithful :=
  iso_faithful (record_faithful <| .required text_faithful (by decide) <|
    .required uint64_faithful (by decide) .nil) fun _ => rfl

theorem SplitPlan.codec_faithful : codec.Faithful :=
  iso_faithful (record_faithful <| .required text_faithful (by decide) <|
    .required (list_faithful WorkUnit.codec_faithful) (by decide) <|
    .optional (idMap_faithful idSet_faithful) (by decide) .nil) fun _ => rfl

theorem LevelViolation.codec_faithful : codec.Faithful :=
  iso_faithful (record_faithful <| .required text_faithful (by decide) <|
    .required Level.codec_faithful (by decide) <| .required text_faithful (by decide) <|
    .required Level.codec_faithful (by decide) .nil) fun _ => rfl

/-! ### Budgets and checkpoints -/

theorem Thresholds.codec_faithful : codec.Faithful :=
  iso_faithful (record_faithful <| .required uint64_faithful (by decide) <|
    .required uint64_faithful (by decide) <| .required uint64_faithful (by decide) <|
    .required uint64_faithful (by decide) .nil) fun _ => rfl

theorem BudgetDecision.codec_faithful : codec.Faithful :=
  iso_faithful (record_faithful <| .required Tier.codec_faithful (by decide) <|
    .required BudgetAction.codec_faithful (by decide) <| .required uint64_faithful (by decide) <|
    .required uint64_faithful (by decide) <| .required bool_faithful (by decide) .nil) fun _ => rfl

theorem BudgetDecision.codec_held (depth : Nat) : codec.Held (depth + 1) :=
  iso_held (record_held (.cons names_held <| .cons names_held <| .cons uint64_held <|
    .cons uint64_held <| .cons bool_held .nil))

theorem TestStatus.codec_faithful : codec.Faithful :=
  iso_faithful (record_faithful <| .required uint32_faithful (by decide) <|
    .required uint32_faithful (by decide) .nil) fun _ => rfl

theorem ResumeContext.codec_faithful : codec.Faithful :=
  have texts := list_faithful text_faithful
  iso_faithful (record_faithful <| .required text_faithful (by decide) <|
    .required uint32_faithful (by decide) <| .required texts (by decide) <|
    .required texts (by decide) <| .required texts (by decide) <|
    .required TestStatus.codec_faithful (by decide) .nil) fun _ => rfl

/-! ### Reports -/

theorem StatusSummary.codec_faithful : codec.Faithful :=
  have ids := list_faithful text_faithful
  iso_faithful (record_faithful <| .required ids (by decide) <| .required ids (by decide) <|
    .required ids (by decide) <| .required ids (by decide) <| .required ids (by decide) <|
    .required ids (by decide) <| .required uint64_faithful (by decide) .nil) fun _ => rfl

theorem UnitReport.codec_faithful : codec.Faithful :=
  iso_faithful (record_faithful <| .required WorkUnit.codec_faithful (by decide) <|
    .required Tier.codec_faithful (by decide) <| .required BudgetAction.codec_faithful (by decide) <|
    .required bool_faithful (by decide) <| .required uint32_faithful (by decide) <|
    .required (list_faithful text_faithful) (by decide) .nil) fun _ => rfl

theorem AuditEvent.codec_faithful : codec.Faithful :=
  iso_faithful (record_faithful <| .required text_faithful (by decide) <|
    .required text_faithful (by decide) <| .required AuditAction.codec_faithful (by decide) <|
    .required wide_faithful (by decide) <| .nullable text_faithful nofun (by decide) .nil)
    fun _ => rfl

/-! ### Requests and responses -/

theorem LaunchRequest.codec_faithful : codec.Faithful :=
  iso_faithful (record_faithful <| .required text_faithful (by decide) <|
    .required LaunchTask.codec_faithful (by decide) <|
    .optional int32_faithful (by decide) .nil) fun _ => rfl

theorem LaunchResponse.codec_faithful : codec.Faithful :=
  iso_faithful (tagged_faithful 126 <|
    .cons (.required uint64_faithful (by decide) <| .required bool_faithful (by decide) .nil)
      (.cons uint64_held <| .cons bool_held .nil) (by decide) (by decide) <|
    .cons (.required uint64_faithful (by decide) .nil) (.cons uint64_held .nil) (by decide)
      (by decide) <|
    .cons (.required (list_faithful text_faithful) (by decide) .nil)
      (.cons (list_held text_held) .nil) (by decide) (by decide) <|
    .cons (.required BudgetDecision.codec_faithful (by decide) .nil)
      (.cons (BudgetDecision.codec_held _) .nil) (by decide) (by decide) .nil)
    fun r => by cases r <;> rfl

theorem UnitStatusResponse.codec_faithful : codec.Faithful :=
  iso_faithful (record_faithful <| .required text_faithful (by decide) <|
    .required Status.codec_faithful (by decide) <| .required Tier.codec_faithful (by decide) <|
    .required BudgetAction.codec_faithful (by decide) <| .required uint32_faithful (by decide) <|
    .required (list_faithful text_faithful) (by decide) .nil) fun _ => rfl

theorem Health.codec_faithful : codec.Faithful :=
  iso_faithful (record_faithful <| .required bool_faithful (by decide) <|
    .required uint64_faithful (by decide) <| .required uint64_faithful (by decide) <|
    .required uint64_faithful (by decide) .nil) fun _ => rfl

/-! ### Configurations -/

theorem BudgetSettings.codec_faithful : codec.Faithful :=
  iso_faithful (record_faithful <| .optional uint64_faithful (by decide) <|
    .optional uint64_faithful (by decide) <| .optional uint64_faithful (by decide) <|
    .optional uint64_faithful (by decide) <| .optional uint64_faithful (by decide) <|
    .optional uint64_faithful (by decide) .nil) fun _ => rfl

theorem StorageSettings.codec_faithful : codec.Faithful :=
  iso_faithful (tagged_faithful 125 <|
    .cons .nil .nil (by decide) (by decide) <|
    .cons (.required text_faithful (by decide) <| .required text_faithful (by decide) .nil)
      (.cons text_held <| .cons text_held .nil) (by decide) (by decide) .nil)
    fun s => by cases s <;> rfl

theorem Config.codec_faithful : codec.Faithful :=
  iso_faithful (record_faithful <| .optional uint64_faithful (by decide) <|
    .optional uint32_faithful (by decide) <| .optional uint64_faithful (by decide) <|
    .optional BudgetSettings.codec_faithful (by decide) <|
    .optional StorageSettings.codec_faithful (by decide) .nil) fun _ => rfl

/-- Only the check stands between a configuration and its text. -/
theorem Config.ofText_encodeText (c : Config) :
    ofText (codec.encodeText c) = c.check.map fun _ => c := by
  rw [ofText, (Config.codec_faithful.recovers c).1]
  rfl

end BuildAdmission
