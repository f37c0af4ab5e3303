import BuildAdmission.Checkpoint.Basic
import BuildAdmission.Codec.Variant

namespace BuildAdmission

namespace Outcome

/-- The deepest nesting of lists and objects in a text that holds a tagged record. -/
def maxDepth : Nat := 127

def codec : Codec Outcome :=
  (Codec.tagged "outcome" maxDepth
    (.cons "completed" .nil <|
    .cons "failed" (.required "reason" .text .nil) <|
    .cons "suspended" (.required "checkpoint" CheckpointData.codec .nil) .nil)).iso
    (fun
      | .inl _ => .completed
      | .inr (.inl (reason, _)) => .failed reason
      | .inr (.inr (.inl (checkpoint, _))) => .suspended checkpoint)
    (fun
      | .completed => .inl ()
      | .failed reason => .inr (.inl (reason, ()))
      | .suspended checkpoint => .inr (.inr (.inl (checkpoint, ()))))

end Outcome

end BuildAdmission
