import VoiceCursor.Log.Entry
import VoiceCursor.Log.Pattern
import VoiceCursor.SpokenNumber
import VoiceCursor.Text.Position

namespace VoiceCursor.Log

open Text

/-! Filters that choose the log lines to write. A filter is a list of directives
between commas, each a level, a target, or a target with a level; the directive
with the longest target that starts the target of an entry decides about it. Of
several with one target, one that asks for a field comes before one that does not, and
fields with a later name come first.

The program takes its filter from the environment if one is set there. Here none is. -/

/-- The levels that a directive lets through: as verbose as this one and less. -/
structure Threshold where
  verbosity : Nat
  deriving DecidableEq

def Threshold.admits (threshold : Threshold) (level : Level) : Bool :=
  level.verbosity ≤ threshold.verbosity

def Threshold.all : Threshold := ⟨5⟩

def Threshold.errors : Threshold := ⟨1⟩

/-- Reads a level by its name, in any case, or by its number. -/
def Threshold.ofText? (text : List Char) : Option Threshold :=
  let word := String.ofList text
  let number := cappedValue word
  if number ≤ 5 then some ⟨number⟩
  else match text.map Char.toLower |> String.ofList with
    | "" | "error" => some ⟨1⟩
    | "warn" => some ⟨2⟩
    | "info" => some ⟨3⟩
    | "debug" => some ⟨4⟩
    | "trace" => some ⟨5⟩
    | "off" => some ⟨0⟩
    | _ => none

structure Directive where
  target : Option (List Char)
  fields : List String
  /-- Whether the directive is about spans, of which there are none. -/
  aboutSpans : Bool
  threshold : Threshold

inductive DirectiveError where
  | malformed
  | unknownLevel
  | field (error : PatternError)
  deriving DecidableEq

def DirectiveError.text : DirectiveError → String
  | .malformed => "invalid filter directive"
  | .unknownLevel =>
      "error parsing level filter: expected one of \"off\", \"error\", \"warn\", " ++
        "\"info\", \"debug\", \"trace\", or a number 0-5"
  | .field error => "invalid field filter: " ++ error.text

/-- Where the reading of a directive stands; numbers count the bytes before the part
under way. -/
inductive DirectivePhase where
  | start
  | levelOrTarget (start : Nat)
  | span (start : Nat)
  | field (start : Nat)
  | fields
  | target
  | level (start : Nat)

namespace Directive

def startsName (c : Char) : Bool :=
  isAlphanumeric c || c = '-' || c = ':' || c = '_'

def slice (text : List Char) (start stop : Nat) : List Char :=
  dropBytes start (takeBytes stop text)

/-- Adds a field, which is a name or a name with a value. The value ends with the next
equals sign. No entry has a value that could be asked for. -/
def addField (directive : Directive) (field : List Char) :
    Except DirectiveError Directive := do
  if field.isEmpty then .error .malformed
  let name := field.takeWhile (· ≠ '=')
  match field.dropWhile (· ≠ '=') with
  | [] => pure ()
  | _ :: value => (Pattern.check (value.takeWhile (· ≠ '='))).mapError .field
  return { directive with
    fields := directive.fields ++ [String.ofList name]
    aboutSpans := directive.aboutSpans || field.contains '=' }

def step (text : List Char) (phase : DirectivePhase) (directive : Directive)
    (place : Nat) (c : Char) :
    Except DirectiveError (DirectivePhase × Directive) :=
  match phase with
  | .start =>
      if c = '[' then .ok (.span (place + 1), directive)
      else if startsName c then .ok (.levelOrTarget place, directive)
      else .error .malformed
  | .levelOrTarget start =>
      let named := { directive with target := some (slice text start place) }
      if c = '=' then .ok (.level (place + 1), named)
      else if c = '[' then .ok (.span (place + 1), named)
      else .ok (phase, directive)
  | .span start =>
      if c = ']' then .ok (.target, { directive with aboutSpans := true })
      else if c = '\x7B' then
        .ok (.field (place + 1), { directive with aboutSpans := start < place })
      else .ok (phase, directive)
  | .field start =>
      if c = '\x7D' then do
        let extended ← directive.addField (slice text start place)
        return (.fields, extended)
      else .ok (phase, directive)
  | .fields => if c = ']' then .ok (.target, directive) else .error .malformed
  | .target =>
      if c = '=' then .ok (.level (place + 1), directive) else .error .malformed
  | .level _ => .ok (phase, directive)

def readFrom (text : List Char) (phase : DirectivePhase) (directive : Directive)
    (place : Nat) : List Char → Except DirectiveError Directive
  | c :: rest => do
      let (next, directive) ← step text phase directive place c
      readFrom text next directive (place + c.utf8Size) rest
  | [] =>
      match phase with
      | .levelOrTarget start =>
          let name := dropBytes start text
          match Threshold.ofText? name with
          | some threshold => .ok { directive with threshold := threshold }
          | none => .ok { directive with target := some name }
      | .level start =>
          match dropBytes start text with
          | [] => .ok directive
          | level =>
              match Threshold.ofText? level with
              | some threshold => .ok { directive with threshold := threshold }
              | none => .error .unknownLevel
      | .target => .ok directive
      | .start | .span _ | .field _ | .fields => .error .malformed

/-- Reads a directive. Blanks at its ends are not looked at, but places are still
counted in the text with them. -/
def ofText (text : List Char) : Except DirectiveError Directive :=
  readFrom text .start ⟨none, [], false, .all⟩ 0 (trim isBlank text)

def concerns (directive : Directive) (entry : Entry) : Bool :=
  !directive.aboutSpans &&
    (match directive.target with
      | none => true
      | some target => target.isPrefixOf entry.target.toList) &&
    directive.fields.all fun field =>
      field = "message" || entry.fields.any fun present => present.1 = field

/-- How narrow a directive is: first by its target, then by the number of its fields. -/
def narrowness (directive : Directive) : Nat × Nat :=
  ((directive.target.map fun target => target.length + 1).getD 0,
    directive.fields.length)

/-- Whether a directive takes precedence over another about the same entry. Of two that
are as narrow the one with the later names of fields does, and the directive given later
if these are the same. -/
def precedes (later earlier : Directive) : Bool :=
  let (target, fields) := later.narrowness
  let (otherTarget, otherFields) := earlier.narrowness
  target > otherTarget || target = otherTarget &&
    (fields > otherFields || fields = otherFields && !decide (later.fields < earlier.fields))

end Directive

structure Filter where
  directives : List Directive

namespace Filter

def deciding? (filter : Filter) (entry : Entry) : Option Directive :=
  (filter.directives.filter fun directive => directive.concerns entry).foldl
    (fun best directive =>
      match best with
      | none => some directive
      | some best => some (if directive.precedes best then directive else best))
    none

def admits (filter : Filter) (entry : Entry) : Bool :=
  match filter.deciding? entry with
  | none => false
  | some directive => directive.threshold.admits entry.level

def record (filter : Filter) (entries : List Entry) : String :=
  String.join ((entries.filter filter.admits).map fun entry => entry.text ++ "\n")

/-- Reads a filter, with a complaint for each directive that makes no sense. Without
any other directive only errors pass. -/
def ofText (text : String) : Filter × List String :=
  let parts := (splitWhere (· = ',') text.toList).filter fun part => !part.isEmpty
  let read := parts.map fun part => (part, Directive.ofText part)
  let directives := read.filterMap fun result => result.2.toOption
  let complaints := read.filterMap fun result =>
    match result.2 with
    | .ok _ => none
    | .error error =>
        some ("ignoring `" ++ String.ofList result.1 ++ "`: " ++ error.text)
  (⟨if directives.isEmpty then [⟨none, [], false, .errors⟩] else directives⟩,
    complaints)

end Filter

end VoiceCursor.Log
