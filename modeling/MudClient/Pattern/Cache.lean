import MudClient.OrderedMap
import MudClient.Pattern.Template

/-!
# Patterns read once

* `Cache`: the patterns that have been read, by source and settings, and the log about those that were refused
* `Cache.read`: a pattern from the cache, or read and kept
* `Request`, `Answer`: what a cache can be asked, and what it says
* `Cache.answer`: one request
* `Answer.fresh`: the same request without a cache
-/

set_option autoImplicit false

namespace MudClient.Pattern

/-- What a refusal has to say. Those that are no problem of the pattern do not mention it. -/
def Refusal.report (refusal : Refusal) (source : Text) : String :=
  match refusal with
  | problem p => "Invalid pattern '" ++ String.ofList source ++ "': " ++ p.reason source
  | refusal => refusal.message source

/-- The message in the log about a refusal: only problems of the pattern are reported. -/
def Refusal.notice? (refusal : Refusal) (source : Text) : Option String :=
  match refusal with
  | problem p => some ((problem p).report source)
  | _ => none

/-- Patterns by source and settings. Nothing is ever taken out. -/
structure Cache where
  /-- The characters that patterns can name. -/
  names : CharacterNames
  patterns : OrderedMap (Text × Int) Regex
  /-- The messages about patterns that were refused, oldest first. -/
  log : List String

namespace Cache

/-- A cache in which nothing has been read. -/
def new (names : CharacterNames) : Cache := ⟨names, .empty, []⟩

/-- A cache for patterns that name no characters. -/
def empty : Cache := new fun _ => none

def get? (cache : Cache) (key : Text × Int) : Option Regex := cache.patterns.get? key

def keys (cache : Cache) : List (Text × Int) := cache.patterns.keys

def contains (cache : Cache) (key : Text × Int) : Bool := cache.patterns.contains key

def size (cache : Cache) : Nat := cache.patterns.size

/-- The pattern that a text writes. It is read on first use only; one that cannot be read is
not kept. -/
def read (cache : Cache) (source : Text) (bits : Int) : Except Refusal Regex × Cache :=
  match cache.get? (source, bits) with
  | some re => (.ok re, cache)
  | none =>
    match Regex.read cache.names source bits with
    | .ok re => (.ok re, { cache with patterns := cache.patterns.insert (source, bits) re })
    | .error refusal =>
      (.error refusal, { cache with log := cache.log ++ (refusal.notice? source).toList })

def holds (cache : Cache) (source : Text) : Bool :=
  cache.keys.any fun key => key.1 == source

end Cache

/-! ## Requests -/

inductive Use
  | compile
  | replace (text template : Text)
  | spans (text : Text)
  | has (text : Text)
  | first (text : Text)
  | all (text : Text)
  | piece (text : Text) (number : Int)

inductive Request
  | size
  | holds (source : Text)
  | use (source : Text) (bits : Int) (what : Use)

inductive Failure
  | refused (source : Text) (refusal : Refusal)
  | template (template : Text) (error : TemplateError)
  | group (error : GroupError)

/-- What a pattern has to say. Matches come with the text they were found in. -/
inductive Answer
  | size (n : Nat)
  | flag (b : Bool)
  | compiled
  | text (t : Text)
  | spans (spans : List Span)
  | first (text : Text) (found : Option Match)
  | all (text : Text) (found : List Match)
  | piece (span : Option Span) (content : Option Text)

def Regex.answer (re : Regex) : Use → Except Failure Answer
  | .compile => .ok .compiled
  | .replace t template =>
    match re.replace template t with
    | .ok result => .ok (.text result)
    | .error e => .error (.template template e)
  | .spans t => .ok (.spans (re.firstSpans t))
  | .has t => .ok (.flag (re.has t))
  | .first t => .ok (.first t (re.first? t))
  | .all t => .ok (.all t (re.all t))
  | .piece t number =>
    match re.first? t with
    | none => .ok (.piece none none)
    | some m =>
      match m.spanAt number with
      | .ok span => .ok (.piece span (span.map fun s => (t.drop s.start).take (s.stop - s.start)))
      | .error e => .error (.group e)

/-- The answer with a pattern that is read for this request alone. -/
def Answer.fresh (names : CharacterNames) (source : Text) (bits : Int) (what : Use) :
    Except Failure Answer :=
  match Regex.read names source bits with
  | .ok re => re.answer what
  | .error refusal => .error (.refused source refusal)

def Cache.answer (cache : Cache) : Request → Except Failure Answer × Cache
  | .size => (.ok (.size cache.size), cache)
  | .holds source => (.ok (.flag (cache.holds source)), cache)
  | .use source bits what =>
    match cache.read source bits with
    | (.ok re, cache) => (re.answer what, cache)
    | (.error refusal, cache) => (.error (.refused source refusal), cache)

/-- The message in the log about a failure. -/
def Failure.notice? : Failure → Option String
  | .refused source refusal => refusal.notice? source
  | _ => none

def Failure.message : Failure → String
  | .refused source refusal => refusal.report source
  | .template written (.refused refusal) => refusal.message written
  | .template _ (.unknownGroup name) => "unknown group name " ++ String.ofList name.quoted
  | .group .noSuchGroup => "no such group"

end MudClient.Pattern
