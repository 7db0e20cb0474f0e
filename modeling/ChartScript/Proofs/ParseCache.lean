import ChartScript.Engine

/-!
# The parse cache is transparent

An engine keeps one source and what it was parsed to. `Engine.Consistent` says that the entry is
what parsing its own source gives, for failures as for programs, and carries that source's hash.
Every request keeps this, so no history of requests shows in an answer. What the history does show
in is the number of parses: one for each change of the source. Two sources with the same hash are
still told apart, so nothing is assumed of the hash.
-/

set_option autoImplicit false

namespace ChartScript.Engine

inductive Request where
  | compile (source : String)
  | run (source : String) (window : List Candle) (overrides : Table String Float)

inductive Response where
  | compiled (parsed : Except SourceError Program)
  | drawn (chart : Chart)

def Request.source : Request → String
  | compile source => source
  | run source _ _ => source

def answer (engine : Engine) : Request → Response × Engine
  | .compile source =>
    let (parsed, next) := engine.compile source
    (.compiled parsed, next)
  | .run source window overrides =>
    let (chart, next) := engine.run source window overrides
    (.drawn chart, next)

def answerAll (engine : Engine) : List Request → List Response × Engine
  | [] => ([], engine)
  | request :: rest =>
    let (response, next) := engine.answer request
    let (responses, final) := next.answerAll rest
    (response :: responses, final)

/-- How many sources differ from the one before. -/
def sourceChanges : Option String → List String → Nat
  | _, [] => 0
  | previous, source :: rest =>
    (if previous = some source then 0 else 1) + sourceChanges (some source) rest

/-! ## The cache entry -/

def lastSource (engine : Engine) : Option String :=
  engine.last.map CacheEntry.source

/-- The cache entry is what its own source is hashed and parsed to. -/
structure Consistent (engine : Engine) : Prop where
  hashed : ∀ entry, engine.last = some entry → entry.hash = engine.hashOf entry.source
  parsed : ∀ entry, engine.last = some entry → entry.parsed = parse entry.source

theorem withHash_consistent (hashOf : String → UInt64) : (withHash hashOf).Consistent := by
  constructor <;> intro entry found <;> cases found

theorem renew_consistent (engine : Engine) (source : String) :
    (engine.renew source).2.Consistent := by
  constructor <;> intro entry found <;> cases found <;> rfl

/-- With the entry in place, the cache is hit exactly where the source has not changed. -/
theorem compile_cases (engine : Engine) (source : String) (consistent : engine.Consistent) :
    engine.lastSource = some source ∧ engine.compile source = (parse source, engine) ∨
      engine.lastSource ≠ some source ∧ engine.compile source = engine.renew source := by
  unfold compile lastSource
  cases found : engine.last with
  | none => exact .inr ⟨nofun, rfl⟩
  | some entry =>
    by_cases same : entry.source = source
    · subst same
      have hashed := consistent.hashed entry found
      refine .inl ⟨rfl, ?_⟩
      simp only [hashed, decide_true, Bool.and_self, if_true, consistent.parsed entry found]
    · refine .inr ⟨fun equal => same (Option.some.inj equal), ?_⟩
      simp only [same, decide_false, Bool.and_false, Bool.false_eq_true, if_false]

theorem compile_parsed (engine : Engine) (source : String) (consistent : engine.Consistent) :
    (engine.compile source).1 = parse source := by
  rcases engine.compile_cases source consistent with ⟨_, hit⟩ | ⟨_, miss⟩
  · rw [hit]
  · rw [miss]
    rfl

theorem compile_consistent (engine : Engine) (source : String)
    (consistent : engine.Consistent) : (engine.compile source).2.Consistent := by
  rcases engine.compile_cases source consistent with ⟨_, hit⟩ | ⟨_, miss⟩
  · rw [hit]
    exact consistent
  · rw [miss]
    exact engine.renew_consistent source

theorem compile_counted (engine : Engine) (source : String) (consistent : engine.Consistent) :
    (engine.compile source).2.lastSource = some source ∧
      (engine.compile source).2.parseCount =
        engine.parseCount + (if engine.lastSource = some source then 0 else 1) := by
  rcases engine.compile_cases source consistent with ⟨same, hit⟩ | ⟨changed, miss⟩
  · rw [hit, if_pos same]
    exact ⟨same, rfl⟩
  · rw [miss, if_neg changed]
    exact ⟨rfl, rfl⟩

theorem run_drawn (engine : Engine) (source : String) (window : List Candle)
    (overrides : Table String Float) (consistent : engine.Consistent) :
    (engine.run source window overrides).1 =
      Chart.ofParsed (parse source) window overrides := by
  rw [← engine.compile_parsed source consistent]
  rfl

/-! ## Histories -/

/-- What a request leaves behind depends on its source only. -/
theorem answer_next (engine : Engine) (request : Request) :
    (engine.answer request).2 = (engine.compile request.source).2 := by
  cases request <;> rfl

theorem answer_of_consistent (engine other : Engine) (request : Request)
    (consistent : engine.Consistent) (otherConsistent : other.Consistent) :
    (engine.answer request).1 = (other.answer request).1 := by
  cases request with
  | compile source =>
    have same := (engine.compile_parsed source consistent).trans
      (other.compile_parsed source otherConsistent).symm
    exact congrArg Response.compiled same
  | run source window overrides =>
    have same := (engine.run_drawn source window overrides consistent).trans
      (other.run_drawn source window overrides otherConsistent).symm
    exact congrArg Response.drawn same

theorem answerAll_of_consistent (engine fresh : Engine) (requests : List Request)
    (consistent : engine.Consistent) (freshConsistent : fresh.Consistent) :
    (engine.answerAll requests).1 = requests.map (fun request => (fresh.answer request).1) ∧
      (engine.answerAll requests).2.parseCount =
        engine.parseCount + sourceChanges engine.lastSource (requests.map Request.source) := by
  induction requests generalizing engine with
  | nil => exact ⟨rfl, rfl⟩
  | cons request rest ih =>
    have response := engine.answer_of_consistent fresh request consistent freshConsistent
    obtain ⟨source, count⟩ := engine.compile_counted request.source consistent
    have next := engine.compile_consistent request.source consistent
    rw [← engine.answer_next] at source count next
    obtain ⟨responses, total⟩ := ih _ next
    refine ⟨congr (congrArg List.cons response) responses, total.trans ?_⟩
    rw [count, source, Nat.add_assoc]
    rfl

/-- Whatever was asked before and whatever the hash, every request is answered as by an engine
that has parsed nothing, and there is one parse for each change of the source. -/
theorem answerAll_as_fresh (hashOf : String → UInt64) (requests : List Request) :
    ((withHash hashOf).answerAll requests).1 =
        requests.map (fun request => ((withHash hashOf).answer request).1) ∧
      ((withHash hashOf).answerAll requests).2.parseCount =
        sourceChanges none (requests.map Request.source) := by
  have fresh := withHash_consistent hashOf
  obtain ⟨responses, count⟩ := answerAll_of_consistent (withHash hashOf) _ requests fresh fresh
  exact ⟨responses, count.trans (Nat.zero_add _)⟩

end ChartScript.Engine
