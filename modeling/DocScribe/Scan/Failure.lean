import DocScribe.Log.Event
import DocScribe.Source.Document

/-!
# How a scan fails

A scan may examine only so many lines (`Limit`). `Failure` is the cause of a failed scan; every
cause has a `reason`, one of three, and a `message`. A search that merely ended without a match is
`notFound`, and one cut short by the limit is `limitExceeded`.
-/

namespace DocScribe.Scan

/-- How many lines one scan may examine; zero or less disables the limit. -/
structure Limit where
  lines : Int := 10000
deriving DecidableEq, Repr, Inhabited

/-- Whether examining `n` lines breaks the limit. -/
def Limit.exceeded (limit : Limit) (n : Nat) : Bool :=
  0 < limit.lines && limit.lines < n

/-- The three ways a scan can fail. -/
inductive Reason where
  | notFound
  | unresolvable
  | limitExceeded
deriving DecidableEq, Repr

/-- The wording of a reason. -/
def Reason.message : Reason → Text
  | .notFound => "construct not found"
  | .unresolvable => "construct name unresolvable"
  | .limitExceeded => "scan limit exceeded"

/-- Why a scan failed. -/
inductive Failure where
  /-- The search was for no kind at all. -/
  | noKind
  /-- The search started outside the document or left it at the top. -/
  | offDocument
  /-- A declaration of another kind stood in the way. -/
  | blocked (kind found : Kind) (line : Nat)
  | startLimit (kind : Kind) (cursor : Int)
  /-- The line does not declare a construct of the kind. -/
  | notDeclared
  /-- The document ended before the braces balanced. -/
  | unclosed (kind : Kind) (start : Int) (opened : Bool)
  | endLimit (kind : Kind) (start : Int)
  | ownerLimit (anchor : Int)
  | hierarchyLimit (cursor : Int)
  /-- The declaration has no usable name. -/
  | unnamed (kind : Kind) (line : Int)
  /-- The nearest declaration cannot be documented. -/
  | undocumentable (cursor : Int) (scope : Kind)
deriving DecidableEq, Repr

namespace Failure

/-- Which of the three ways it is. -/
def reason : Failure → Reason
  | .startLimit .. => .limitExceeded
  | .endLimit .. => .limitExceeded
  | .ownerLimit .. => .limitExceeded
  | .hierarchyLimit .. => .limitExceeded
  | .unnamed .. => .unresolvable
  | _ => .notFound

/-- What was being done, for the causes that say so. -/
def context? : Failure → Option Text
  | .startLimit kind cursor =>
    some (("find " : Text) ++ kind.name ++ (" start from line " : Text) ++ Number.signed cursor)
  | .endLimit kind start =>
    some (("find " : Text) ++ kind.name ++ (" end from line " : Text) ++ Number.signed start)
  | .ownerLimit anchor => some (("find owner of line " : Text) ++ Number.signed anchor)
  | .hierarchyLimit cursor => some (("hierarchy from line " : Text) ++ Number.signed cursor)
  | .unnamed kind line => some (kind.name ++ (" at line " : Text) ++ Number.signed line)
  | _ => none

/-- The wording of the failure: what was being done, and the reason. -/
def message (f : Failure) : Text :=
  match f.context? with
  | some context => context ++ (": " : Text) ++ f.reason.message
  | none => f.reason.message

/-- The event that narrates the failure. -/
def event? (limit : Limit) : Failure → Option Log.Event
  | .blocked kind found line =>
    some (.debug "start scan blocked"
      [("kind", .ofKind kind), ("blockedBy", .ofKind found), ("line", .int line)])
  | .startLimit kind cursor =>
    some (.debug "start scan hit limit"
      [("kind", .ofKind kind), ("cursor", .int cursor), ("limit", .int limit.lines)])
  | .unclosed kind start opened =>
    some (.debug "end scan ran off document"
      [("kind", .ofKind kind), ("start", .int start), ("started", .bool opened)])
  | .endLimit kind start =>
    some (.debug "end scan hit limit"
      [("kind", .ofKind kind), ("start", .int start), ("limit", .int limit.lines)])
  | .ownerLimit anchor =>
    some (.debug "owner scan hit limit" [("anchor", .int anchor), ("limit", .int limit.lines)])
  | .hierarchyLimit cursor =>
    some (.debug "hierarchy scan hit limit" [("cursor", .int cursor), ("limit", .int limit.lines)])
  | .undocumentable cursor scope =>
    some (.debug "nothing to document" [("cursor", .int cursor), ("scope", .ofKind scope)])
  | _ => none

end Failure

end DocScribe.Scan
