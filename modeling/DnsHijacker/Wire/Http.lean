import DnsHijacker.Rust.Json

/-!
# HTTP responses

A response as its client reads it: the lines of the head up to an empty one, and a body that has to be
as long as `Content-Length` says.
-/

namespace DnsHijacker.Wire

open DnsHijacker.Rust

/-- A response that was read. -/
structure HttpReply where
  statusLine : Text
  contentType : Text
  body : Text
  deriving DecidableEq

/-- The lines of a head up to the empty one, and what follows it. -/
def readHead : Nat → Text → Option (List Text × Text)
  | 0, _ => none
  | fuel + 1, text =>
      match splitOnce '\n' text with
      | none => none
      | some (line, rest) =>
          match if line.getLast? = some '\r' then line.dropLast else line with
          | [] => some ([], rest)
          | line => (readHead fuel rest).map fun (lines, rest) => (line :: lines, rest)

/-- The value of a header. -/
def headerValue (name : Text) (headers : List Text) : Option Text :=
  headers.findSome? (stripPrefix (name ++ ": ".toList))

def readResponse (text : Text) : Option HttpReply :=
  match readHead text.length text with
  | some (statusLine :: headers, body) =>
      match headerValue "Content-Type".toList headers,
        (headerValue "Content-Length".toList headers).bind readNat with
      | some contentType, some (length, []) =>
          if length = (toUtf8 body).length then some ⟨statusLine, contentType, body⟩ else none
      | _, _ => none
  | _ => none

/-- `\r\n` -/
def crlf : Text :=
  ['\r', '\n']

/-- A head that was written is read. -/
theorem readHead_written {lines : List Text} (nonempty : ∀ line ∈ lines, line ≠ [])
    (oneLine : ∀ line ∈ lines, '\n' ∉ line) (body : Text) {fuel : Nat} (enough : lines.length < fuel) :
    readHead fuel (lines.flatMap (· ++ crlf) ++ crlf ++ body) = some (lines, body) := by
  induction lines generalizing fuel with
  | nil =>
      cases fuel with
      | zero => contradiction
      | succ fuel => rfl
  | cons line lines ih =>
      rw [List.forall_mem_cons] at nonempty oneLine
      cases fuel with
      | zero => contradiction
      | succ fuel =>
          have written : (line :: lines).flatMap (· ++ crlf) ++ crlf ++ body =
              (line ++ ['\r']) ++ '\n' :: (lines.flatMap (· ++ crlf) ++ crlf ++ body) := by
            simp [crlf]
          have absent : '\n' ∉ line ++ ['\r'] := by simp [oneLine.1]
          have later := ih nonempty.2 oneLine.2 (Nat.lt_of_succ_lt_succ enough)
          have last : (line ++ ['\r']).getLast? = some '\r' := List.getLast?_concat
          rw [written, readHead, splitOnce_append absent]
          dsimp only
          rw [if_pos last, List.dropLast_concat]
          cases line with
          | nil => exact absurd rfl nonempty.1
          | cons first rest => simp only [later, Option.map_some]

end DnsHijacker.Wire
