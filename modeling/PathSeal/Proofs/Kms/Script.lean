import PathSeal.Kms.Script

/-!
# PathSeal.Proofs.Kms.Script

Which reply of a script a call gets: the calls take the replies in order, and once
there is only one left, all further calls get that one (`next_after`). A service
with a record notes each of them (`wrap_recorded`, `unwrap_recorded`).
-/

namespace PathSeal.Kms.Script

/-- What is left of a script after a number of calls. -/
def after (script : Script) (n : Nat) : Script :=
  script.drop (min n (script.length - 1))

/-- The reply to a call. Calls are counted from 1. -/
def replyTo (script : Script) (n : Nat) : Reply :=
  script.getD (min (n - 1) (script.length - 1)) ⟨0, .echo⟩

@[simp] theorem after_zero (script : Script) : script.after 0 = script := by
  rw [after, Nat.zero_min, List.drop_zero]

/-- A reply is taken off unless it is the last one. -/
theorem next_eq (script : Script) :
    script.next = (script.getD 0 ⟨0, .echo⟩, script.drop (min 1 (script.length - 1))) := by
  match script with
  | [] => rfl
  | [_] => rfl
  | _ :: _ :: _ => rfl

/-- The next call gets the next reply, or the last one again. -/
theorem next_after (script : Script) (n : Nat) :
    (script.after n).next = (script.replyTo (n + 1), script.after (n + 1)) := by
  have hlength : (script.after n).length = script.length - min n (script.length - 1) :=
    List.length_drop
  have hrest : min n (script.length - 1) +
      min 1 (script.length - min n (script.length - 1) - 1) = min (n + 1) (script.length - 1) := by
    omega
  rw [next_eq, hlength, after, List.drop_drop, hrest, replyTo, Nat.add_sub_cancel, after]
  simp only [List.getD_eq_getElem?_getD, List.getElem?_drop, Nat.add_zero]

/-! ## Recorded calls -/

variable (key : Key.Handle) (w : World (Script × List Call))

theorem wrap_recorded (dek : Bytes) :
    wrapper.recorded.wrap key dek w =
      let reply := next w.kms.1
      (⟨reply.1.outcome.wrapped dek, reply.1.wait⟩,
        ⟨w.entropy, (reply.2, w.kms.2 ++ [.wrap key dek])⟩) := rfl

theorem unwrap_recorded (wrapped : Key.Wrapped) :
    wrapper.recorded.unwrap key wrapped w =
      let reply := next w.kms.1
      (⟨reply.1.outcome.bytes wrapped.bytes, reply.1.wait⟩,
        ⟨w.entropy, (reply.2, w.kms.2 ++ [.unwrap key wrapped.bytes])⟩) := rfl

end PathSeal.Kms.Script
