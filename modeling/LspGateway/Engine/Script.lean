import LspGateway.Engine.Scripted

/-!
# Scripts as values

How a script for the scripted engine is written as a value: an object with one
behaviour, or an array of them, for each method. What the engine writes down is
turned into values likewise.
-/

namespace LspGateway.Engine.Scripted

/-- The text under a key. -/
def textUnder (json : Json) (key : String) : Option String :=
  (json.get? key).bind Json.string?

/-- Whether something is asked for under a key. -/
def isAsked (json : Json) (key : String) : Bool :=
  match json.get? key with
  | some (.bool asked) => asked
  | _ => false

/-- The reason for which a call breaks off: a text, a fixed one, or none. -/
def reason? (json : Json) : Option (Option String) :=
  match json.get? "panic" with
  | some (.string reason) => some (some reason)
  | some (.bool true) => some (some "static panic")
  | some (.number _) => some none
  | _ => none

/-- The ending that a behaviour states in place of a result; the first of those
that are stated. -/
def Ending.ofJson? (json : Json) : Option Ending :=
  match textUnder json "fail", textUnder json "unsupported" with
  | some message, _ => some (.fails (.failed message (textUnder json "source")))
  | none, some method => some (.fails (.unsupported method))
  | none, none =>
    if isAsked json "cancelled" then some (.fails .cancelled)
    else (reason? json).map .breaks

/-- The behaviour that a value states. Events that do not fit are left out. -/
def Behaviour.ofJson (json : Json) : Behaviour where
  events := (((json.get? "emit").bind Json.array?).getD []).filterMap Event.ofJson?
  barrier := textUnder json "hold"
  ignoresCancellation := isAsked json "ignore_cancel"
  checks := isAsked json "check"
  ending := Ending.ofJson? json
  result := json.get? "result"

/-- The script that a value states. -/
def scriptOfJson (json : Json) : List (String × List Behaviour) :=
  match json with
  | .object members => members.map fun (method, json) =>
    match json with
    | .array behaviours => (method, behaviours.map Behaviour.ofJson)
    | behaviour => (method, [Behaviour.ofJson behaviour])
  | _ => []

/-- A record as a value. -/
def Record.toJson : Record → Json
  | .called method params => .ofPairs [("method", .string method), ("params", params)]
  | .resumed method cancelled =>
    .ofPairs [("resumed", .string method), ("cancelled", .ofOption (cancelled.map .bool))]
  | .disposed => .ofPairs [("method", .string "dispose")]

end LspGateway.Engine.Scripted
