import ChartScript.Script
import ChartScript.Syntax.Parser

/-!
# Engines

An engine runs the source of one script again and again. It keeps what the last source was parsed
to, a failure included, and parses only a source that differs from the one before. A hash is
compared before the sources are; which hash it is changes no answer.
-/

set_option autoImplicit false

namespace ChartScript

structure CacheEntry where
  hash : UInt64
  source : String
  parsed : Except SourceError Program

structure Engine where
  hashOf : String → UInt64
  last : Option CacheEntry
  parseCount : Nat

/-- The chart of a parsed source. A source that is no program gives a chart that tells why. -/
def Chart.ofParsed (parsed : Except SourceError Program) (window : List Candle)
    (overrides : Table String Float) : Chart :=
  match parsed with
  | .ok program => program.chart window overrides
  | .error error => .failed Chart.defaultTitle error.message

namespace Engine

/-- Mixes the characters of a source one after the other into a word. -/
def sourceHash (source : String) : UInt64 :=
  source.toList.foldl (fun hash character =>
    (hash ^^^ character.val.toUInt64) * 0x100000001B3) 0xCBF29CE484222325

def withHash (hashOf : String → UInt64) : Engine := ⟨hashOf, none, 0⟩

def new : Engine := withHash sourceHash

def renew (engine : Engine) (source : String) : Except SourceError Program × Engine :=
  let parsed := parse source
  (parsed, { engine with
    last := some ⟨engine.hashOf source, source, parsed⟩, parseCount := engine.parseCount + 1 })

def compile (engine : Engine) (source : String) : Except SourceError Program × Engine :=
  match engine.last with
  | some entry =>
    if entry.hash = engine.hashOf source && entry.source = source then (entry.parsed, engine)
    else engine.renew source
  | none => engine.renew source

def run (engine : Engine) (source : String) (window : List Candle)
    (overrides : Table String Float) : Chart × Engine :=
  let (parsed, next) := engine.compile source
  (.ofParsed parsed window overrides, next)

end Engine

end ChartScript
