import PathSeal.Duration
import PathSeal.Kms.Wrapper

/-!
# PathSeal.Kms.Script

A service that answers from a script, whatever it is asked. Each call takes the
next reply; the last one stays in force for ever.
-/

namespace PathSeal.Kms

/-- What a scripted call comes to. -/
inductive Script.Outcome where
  | fail (error : Error)
  | give (bytes : Bytes)
  | echo

/-- A scripted reply: a wait in milliseconds, then an outcome. -/
structure Script.Reply where
  millis : Nat
  outcome : Script.Outcome

/-- The time until a reply is there; no timer runs longer than `Duration.maxTicks`. -/
def Script.Reply.wait (reply : Script.Reply) : Nat :=
  min reply.millis Duration.maxTicks

/-- The replies still to come. -/
abbrev Script := List Script.Reply

namespace Script

/-- The reply to the next call and the script after it. -/
def next : Script → Reply × Script
  | [] => (⟨0, .echo⟩, [])
  | [last] => (last, [last])
  | reply :: rest => (reply, rest)

/-- Takes the next reply off the script. -/
def takeReply : StateM (World Script) Reply :=
  fun w => let (reply, rest) := next w.kms; (reply, { w with kms := rest })

/-- The bytes an outcome gives back for the given ones. -/
def Outcome.bytes (outcome : Outcome) (given : Bytes) : Except Error Bytes :=
  match outcome with
  | fail error => .error error
  | give bytes => .ok bytes
  | echo => .ok given

/-- The wrapped key an outcome gives back for the given bytes. -/
def Outcome.wrapped (outcome : Outcome) (given : Bytes) : Except Error Key.Wrapped := do
  let bytes ← outcome.bytes given
  match Key.Wrapped.ofBytes bytes with
  | .ok wrapped => return wrapped
  | .error e => throw (.unavailable e.message)

/-- The service of a script. -/
def wrapper : Wrapper Script where
  wrap _ dek := do
    let reply ← takeReply
    return ⟨reply.outcome.wrapped dek, reply.wait⟩
  unwrap _ wrapped := do
    let reply ← takeReply
    return ⟨reply.outcome.bytes wrapped.bytes, reply.wait⟩

end Script
end PathSeal.Kms
