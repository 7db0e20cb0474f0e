import ChartScript.Proofs.ProgramGrammar

/-!
# Version comments behind line breaks

Where a line break stands before a version comment, the parser skips both or stops at the line
break. So on a list of tokens and on the same list without that comment every production goes the
same way: it fails alike, or it yields the same value and stops before such lists again.
-/

set_option autoImplicit false

namespace ChartScript

/-- The second list is the first one without some of the version comments behind line breaks. -/
inductive DropsVersions : List Token → List Token → Prop
  | same (tokens : List Token) : DropsVersions tokens tokens
  | keep (token : Token) {first second : List Token} (rest : DropsVersions first second) :
      DropsVersions (token :: first) (token :: second)
  | drop {newline version : Token} {comment : String} (isBreak : newline.kind = .newline)
      (isVersion : version.kind = .versionComment comment) {first second : List Token}
      (rest : DropsVersions first second) :
      DropsVersions (newline :: version :: first) (newline :: second)

namespace DropsVersions

variable {first second : List Token}

theorem append (front : List Token) (rest : DropsVersions first second) :
    DropsVersions (front ++ first) (front ++ second) := by
  induction front with
  | nil => exact rest
  | cons token front ih => exact .keep token ih

/-- Both lists are empty, or they start with the same token. Behind a line break the first one can
have a version comment more. -/
theorem cases_head (drops : DropsVersions first second) :
    first = [] ∧ second = [] ∨ ∃ token others rest, first = token :: others ∧
      second = token :: rest ∧ (DropsVersions others rest ∨ token.kind = .newline ∧
        ∃ version comment behind, version.kind = .versionComment comment ∧
          others = version :: behind ∧ DropsVersions behind rest) := by
  cases drops with
  | same =>
    cases first with
    | nil => exact .inl ⟨rfl, rfl⟩
    | cons token rest => exact .inr ⟨token, rest, rest, rfl, rfl, .inl (.same rest)⟩
  | keep token rest => exact .inr ⟨token, _, _, rfl, rfl, .inl rest⟩
  | drop isBreak isVersion rest =>
    exact .inr ⟨_, _, _, rfl, rfl, .inr ⟨isBreak, _, _, _, isVersion, rfl, rest⟩⟩

theorem headD (drops : DropsVersions first second) (finish : Token) :
    first.headD finish = second.headD finish := by
  rcases drops.cases_head with ⟨rfl, rfl⟩ | ⟨token, others, rest, rfl, rfl, _⟩ <;> rfl

theorem skipBreaks (drops : DropsVersions first second) :
    DropsVersions (first.dropWhile (·.kind.isBreak)) (second.dropWhile (·.kind.isBreak)) := by
  induction drops with
  | same tokens => exact .same _
  | keep token rest ih =>
    rw [List.dropWhile_cons, List.dropWhile_cons]
    split
    case isTrue => exact ih
    case isFalse => exact .keep token rest
  | drop isBreak isVersion rest ih =>
    rw [List.dropWhile_cons_of_pos (by rw [isBreak]; rfl),
      List.dropWhile_cons_of_pos (by rw [isVersion]; rfl),
      List.dropWhile_cons_of_pos (by rw [isBreak]; rfl)]
    exact ih

end DropsVersions

namespace Cursor

/-- The cursors stand before the same tokens, but for some version comments behind line breaks. -/
structure Near (first second : Cursor) : Prop where
  rest : DropsVersions first.rest second.rest
  finish : first.finish = second.finish
  nextSite : first.nextSite = second.nextSite

namespace Near

variable {first second : Cursor} (near : Near first second)

include near

theorem current : first.current = second.current := by
  rw [Cursor.current, Cursor.current, near.rest.headD, near.finish]

theorem kind : first.kind = second.kind :=
  congrArg Token.kind near.current

theorem isAt (accepts : TokenKind → Bool) : first.isAt accepts = second.isAt accepts :=
  congrArg accepts near.kind

theorem unexpected (expected : Expected) :
    first.unexpected expected = second.unexpected expected := by
  rw [Cursor.unexpected, Cursor.unexpected, near.current]

theorem skipBreaks : Near first.skipBreaks second.skipBreaks :=
  ⟨near.rest.skipBreaks, near.finish, near.nextSite⟩

theorem takeSite : Near first.takeSite second.takeSite :=
  ⟨near.rest, near.finish, congrArg (· + 1) near.nextSite⟩

end Near

end Cursor

open Cursor (Near)

section Alike

variable {α β : Type} {bound other larger wider : Nat}

/-- Both productions read the same value. -/
structure Parsed.Alike (first : Parsed α bound) (second : Parsed α other) : Prop where
  value : first.value = second.value
  next : Near first.next second.next

/-- Both productions fail with the same error, or read the same value. -/
inductive ParseResult.Alike : ParseResult α bound → ParseResult α other → Prop
  | error (error : SyntaxError) : Alike (.error error) (.error error)
  | ok {first : Parsed α bound} {second : Parsed α other} (alike : first.Alike second) :
      Alike (.ok first) (.ok second)

theorem ParseResult.Alike.bind {first : ParseResult α bound} {second : ParseResult α other}
    {next : Parsed α bound → ParseResult β larger}
    {nextOther : Parsed α other → ParseResult β wider}
    (alike : Alike first second)
    (nextAlike : ∀ value after afterOther lt lt', Near after afterOther →
      Alike (next ⟨value, after, lt⟩) (nextOther ⟨value, afterOther, lt'⟩)) :
    Alike (first >>= next) (second >>= nextOther) := by
  cases alike with
  | error error => exact .error error
  | @ok first second alike =>
    obtain ⟨value, after, lt⟩ := first
    obtain ⟨_, afterOther, lt'⟩ := second
    obtain ⟨rfl, near⟩ := alike
    exact nextAlike value after afterOther lt lt' near

/-- Both cursors stand before something that was looked for, or neither does. -/
def FoundAlike (first : Option (Parsed α bound)) (second : Option (Parsed α other)) : Prop :=
  first = none ∧ second = none ∨ ∃ value after afterOther lt lt',
    first = some ⟨value, after, lt⟩ ∧ second = some ⟨value, afterOther, lt'⟩ ∧
      Near after afterOther

section Found

variable {first : Option (Parsed α bound)} {second : Option (Parsed α other)}

theorem FoundAlike.of_none (nothing : first = none) (alike : FoundAlike first second) :
    second = none := by
  rcases alike with ⟨_, none⟩ | ⟨_, _, _, _, _, found, _⟩
  · exact none
  · cases found.symm.trans nothing

theorem FoundAlike.of_some {value : α} {after : Cursor} {lt : after.remaining < bound}
    (found : first = some ⟨value, after, lt⟩) (alike : FoundAlike first second) :
    ∃ afterOther lt', second = some ⟨value, afterOther, lt'⟩ ∧ Near after afterOther := by
  rcases alike with ⟨none, _⟩ | ⟨_, _, afterOther, _, lt', foundAlike, same, near⟩
  · cases found.symm.trans none
  · cases found.symm.trans foundAlike
    exact ⟨afterOther, lt', same, near⟩

theorem FoundAlike.map {β : Type} (f : α → β) (alike : FoundAlike first second) :
    FoundAlike (first.map (·.map f)) (second.map (·.map f)) := by
  rcases alike with ⟨none, noneOther⟩ | ⟨_, _, _, _, _, found, foundOther, near⟩
  · exact .inl ⟨by rw [none]; rfl, by rw [noneOther]; rfl⟩
  · exact .inr ⟨_, _, _, _, _, by rw [found]; rfl, by rw [foundOther]; rfl, near⟩

end Found

end Alike

namespace Cursor

theorem skipBreaks_of_break {token : Token} {rest : List Token} {finish : Token} {site : Nat}
    (isBreak : token.kind.isBreak = true) :
    skipBreaks ⟨token :: rest, finish, site⟩ = skipBreaks ⟨rest, finish, site⟩ := by
  simp only [skipBreaks, moveTo, List.dropWhile_cons, isBreak, if_true]

section Tokens

variable {α : Type} {first second : Cursor} (near : Near first second)

include near

/-- Both cursors stand before the same token. Behind a line break they are near once all breaks
there are skipped. -/
theorem Near.cases_takes :
    first.rest = [] ∧ second.rest = [] ∨ ∃ token next nextOther, first.Takes token next ∧
      second.Takes token nextOther ∧ (Near next nextOther ∨
        token.kind = .newline ∧ Near next.skipBreaks nextOther.skipBreaks) := by
  obtain ⟨tokens, finish, site⟩ := first
  obtain ⟨others, _, _⟩ := second
  obtain ⟨drops, rfl, rfl⟩ := near
  rcases drops.cases_head with ⟨none, noOther⟩ | ⟨token, rest, behind, rfl, rfl, further⟩
  · exact .inl ⟨none, noOther⟩
  · refine .inr ⟨token, ⟨rest, finish, site⟩, ⟨behind, finish, site⟩, rfl, rfl, ?_⟩
    rcases further with kept | ⟨isBreak, version, comment, others, isVersion, rfl, kept⟩
    · exact .inl ⟨kept, rfl, rfl⟩
    · have skipped : version.kind.isBreak = true := by rw [isVersion]; rfl
      refine .inr ⟨isBreak, ?_⟩
      rw [skipBreaks_of_break skipped]
      exact ⟨kept.skipBreaks, rfl, rfl⟩

theorem Near.select? (choose : TokenKind → Option α) (noBreak : choose .newline = none) :
    FoundAlike (first.select? choose) (second.select? choose) := by
  rcases near.cases_takes with
    ⟨atEnd, atEndOther⟩ | ⟨token, next, nextOther, taken, takenOther, near | ⟨isBreak, _⟩⟩
  · exact .inl ⟨select?_of_nil atEnd, select?_of_nil atEndOther⟩
  · cases chosen : choose token.kind with
    | none =>
      exact .inl ⟨select?_of_none (taken.kind ▸ chosen), select?_of_none (takenOther.kind ▸ chosen)⟩
    | some value =>
      exact .inr ⟨_, _, _, _, _, taken.select? chosen, takenOther.select? chosen, near⟩
  · have refused : choose token.kind = none := by rw [isBreak, noBreak]
    exact .inl ⟨select?_of_none (taken.kind ▸ refused), select?_of_none (takenOther.kind ▸ refused)⟩

theorem Near.accept? (accepts : TokenKind → Bool) (noBreak : accepts .newline = false) :
    FoundAlike (first.accept? accepts) (second.accept? accepts) :=
  (near.select? _ (by rw [noBreak]; rfl)).map Prod.snd

theorem Near.expect (expected : Expected) (accepts : TokenKind → Bool)
    (noBreak : accepts .newline = false) :
    ParseResult.Alike (first.expect expected accepts) (second.expect expected accepts) := by
  unfold Cursor.expect
  rcases near.accept? accepts noBreak with
    ⟨none, noneOther⟩ | ⟨_, _, _, _, _, found, foundOther, after⟩
  · simp only [none, noneOther, near.unexpected]
    exact .error _
  · simp only [found, foundOther]
    exact .ok ⟨rfl, after⟩

theorem Near.nameBefore? (accepts : TokenKind → Bool) (noBreak : accepts .newline = false) :
    FoundAlike (first.nameBefore? accepts) (second.nameBefore? accepts) := by
  unfold Cursor.nameBefore?
  rcases near.select? TokenKind.identifier? rfl with
    ⟨none, noneOther⟩ | ⟨⟨name, span⟩, _, _, _, _, found, foundOther, near⟩
  · rw [none, noneOther]
    exact .inl ⟨rfl, rfl⟩
  · rw [found, foundOther]
    simp only [Option.bind_eq_bind, Option.bind_some]
    rcases near.accept? accepts noBreak with
      ⟨none, noneOther⟩ | ⟨_, _, _, _, _, found, foundOther, near⟩
    · rw [none, noneOther]
      exact .inl ⟨rfl, rfl⟩
    · rw [found, foundOther]
      exact .inr ⟨_, _, _, _, _, rfl, rfl, near⟩

end Tokens

/-! ## Expressions -/

/-- Nested expressions are read alike. -/
def NestedAlike (bound other : Nat) (nested : Nested bound) (nestedOther : Nested other) : Prop :=
  ∀ {first second : Cursor} (fits : first.remaining < bound) (fitsOther : second.remaining < other),
    Near first second → ParseResult.Alike (nested first fits) (nestedOther second fitsOther)

section Nested

variable {bound other : Nat} {nested : Nested bound} {nestedOther : Nested other}
  (nestedAlike : NestedAlike bound other nested nestedOther)

include nestedAlike

theorem argument_alike {first second : Cursor} (before : ArgumentList)
    (fits : first.remaining < bound) (fitsOther : second.remaining < other)
    (near : Near first second) :
    ParseResult.Alike (argument bound nested before first fits)
      (argument other nestedOther before second fitsOther) := by
  unfold argument
  rw [argumentName?_eq, argumentName?_eq]
  rcases near.nameBefore? TokenKind.isAssign rfl with
    ⟨none, noneOther⟩ | ⟨⟨name, span⟩, _, _, _, _, found, foundOther, after⟩
  · simp only [none, noneOther]
    refine (nestedAlike fits fitsOther near).bind fun value next nextOther _ _ next => ?_
    exact .ok ⟨rfl, next⟩
  · simp only [found, foundOther]
    split
    case isTrue => exact .error _
    case isFalse =>
      refine (nestedAlike _ _ after).bind fun value next nextOther _ _ next => ?_
      exact .ok ⟨rfl, next⟩

theorem argumentList_alike {first second : Cursor} (before : ArgumentList)
    (fits : first.remaining < bound) (fitsOther : second.remaining < other)
    (near : Near first second) :
    ParseResult.Alike (argumentList bound nested before first fits)
      (argumentList other nestedOther before second fitsOther) := by
  unfold argumentList
  rw [near.isAt]
  split
  case isTrue => exact .ok ⟨rfl, near⟩
  case isFalse =>
    refine (argument_alike nestedAlike before fits fitsOther near).bind
      fun list next nextOther _ _ near => ?_
    dsimp only
    split
    case h_1 span afterComma lt found =>
      obtain ⟨afterCommaOther, lt', foundOther, near⟩ := FoundAlike.of_some found
        (near.accept? _ rfl)
      rw [foundOther]
      exact (argumentList_alike list _ _ near).bind fun value _ _ _ _ near => .ok ⟨rfl, near⟩
    case h_2 nothing =>
      rw [FoundAlike.of_none nothing (near.accept? _ rfl)]
      exact .ok ⟨rfl, near⟩
termination_by first.remaining

theorem callArguments_alike {first second : Cursor} (function : String)
    (fits : first.remaining ≤ bound) (fitsOther : second.remaining ≤ other)
    (near : Near first second) :
    ParseResult.Alike (callArguments bound nested function first fits)
      (callArguments other nestedOther function second fitsOther) := by
  unfold callArguments
  refine (near.expect _ _ rfl).bind fun _ inside insideOther lt lt' near => ?_
  refine (argumentList_alike nestedAlike _ _ _ near.takeSite).bind fun list _ _ _ _ atEnd => ?_
  refine (atEnd.expect _ _ rfl).bind fun _ next nextOther _ _ next => ?_
  rw [near.nextSite]
  exact .ok ⟨rfl, next⟩

theorem nameOrCall_alike {first second : Cursor} (path : String) (span : Span)
    (fits : first.remaining ≤ bound) (fitsOther : second.remaining ≤ other)
    (near : Near first second) :
    ParseResult.Alike (nameOrCall bound nested path span first fits)
      (nameOrCall other nestedOther path span second fitsOther) := by
  unfold nameOrCall
  rw [near.isAt]
  split
  case isTrue =>
    exact (callArguments_alike nestedAlike path fits fitsOther near).bind
      fun _ _ _ _ _ near => .ok ⟨rfl, near⟩
  case isFalse => exact .ok ⟨rfl, near⟩

theorem primary_alike {first second : Cursor} (fits : first.remaining ≤ bound)
    (fitsOther : second.remaining ≤ other) (near : Near first second) :
    ParseResult.Alike (primary bound nested first fits)
      (primary other nestedOther second fitsOther) := by
  unfold primary
  rcases near.cases_takes with
    ⟨atEnd, atEndOther⟩ | ⟨token, next, nextOther, taken, takenOther, behind | ⟨isBreak, _⟩⟩
  · rw [select?_of_nil atEnd, select?_of_nil atEndOther, near.unexpected]
    exact .error _
  · rw [taken.select? rfl, takenOther.select? rfl]
    dsimp only
    split
    case h_1 | h_2 | h_3 | h_4 => exact .ok ⟨rfl, behind⟩
    case h_5 =>
      exact (nameOrCall_alike nestedAlike _ token.span _ _ behind).bind
        fun _ _ _ _ _ near => .ok ⟨rfl, near⟩
    case h_6 =>
      refine (nestedAlike _ _ behind).bind fun inner _ _ _ _ near => ?_
      exact (near.expect _ _ rfl).bind fun _ _ _ _ _ near => .ok ⟨rfl, near⟩
    case h_7 =>
      rw [near.unexpected]
      exact .error _
  · rw [taken.select? rfl, takenOther.select? rfl]
    simp only [isBreak, near.unexpected]
    exact .error _

theorem suffixes_alike {first second : Cursor} (operand : Expr) (fits : first.remaining ≤ bound)
    (fitsOther : second.remaining ≤ other) (near : Near first second) :
    ParseResult.Alike (suffixes bound nested operand first fits)
      (suffixes other nestedOther operand second fitsOther) := by
  unfold suffixes
  split
  case h_1 span afterDot lt found =>
    obtain ⟨afterDotOther, lt', foundOther, near⟩ := FoundAlike.of_some found
      (near.accept? _ rfl)
    rw [foundOther]
    dsimp only
    split
    case h_1 nothing =>
      rw [FoundAlike.of_none nothing (near.select? _ rfl), near.unexpected]
      exact .error _
    case h_2 name nameSpan afterName _ found =>
      obtain ⟨afterNameOther, _, foundOther, near⟩ := FoundAlike.of_some found
        (near.select? _ rfl)
      rw [foundOther]
      dsimp only
      split
      case h_1 path span =>
        refine (nameOrCall_alike nestedAlike _ span _ _ near).bind fun longer _ _ _ _ near => ?_
        exact (suffixes_alike longer _ _ near).bind fun _ _ _ _ _ near => .ok ⟨rfl, near⟩
      case h_2 =>
        rw [near.isAt, near.current]
        split
        case isTrue => exact .error _
        case isFalse =>
          exact (suffixes_alike _ _ _ near).bind fun _ _ _ _ _ near => .ok ⟨rfl, near⟩
  case h_2 nothing =>
    rw [FoundAlike.of_none nothing (near.accept? _ rfl)]
    dsimp only
    split
    case h_1 span inside lt found =>
      obtain ⟨insideOther, lt', foundOther, near⟩ := FoundAlike.of_some found
        (near.accept? _ rfl)
      rw [foundOther]
      refine (nestedAlike _ _ near).bind fun offset _ _ _ _ near => ?_
      refine (near.expect _ _ rfl).bind fun _ after afterOther _ _ near => ?_
      dsimp only
      rw [near.nextSite]
      exact (suffixes_alike _ _ _ near.takeSite).bind fun _ _ _ _ _ near => .ok ⟨rfl, near⟩
    case h_2 nothing =>
      rw [FoundAlike.of_none nothing (near.accept? _ rfl)]
      exact .ok ⟨rfl, near⟩
termination_by first.remaining
decreasing_by
  all_goals try rw [remaining_takeSite]
  all_goals omega

theorem unary_alike {first second : Cursor} (fits : first.remaining ≤ bound)
    (fitsOther : second.remaining ≤ other) (near : Near first second) :
    ParseResult.Alike (unary bound nested first fits)
      (unary other nestedOther second fitsOther) := by
  unfold unary
  split
  case h_1 op span afterOp lt found =>
    obtain ⟨afterOpOther, lt', foundOther, near⟩ := FoundAlike.of_some found
      (near.select? _ rfl)
    rw [foundOther]
    exact (unary_alike _ _ near).bind fun _ _ _ _ _ near => .ok ⟨rfl, near⟩
  case h_2 nothing =>
    rw [FoundAlike.of_none nothing (near.select? _ rfl)]
    refine (primary_alike nestedAlike fits fitsOther near).bind fun operand _ _ _ _ near => ?_
    exact (suffixes_alike nestedAlike operand _ _ near).bind
      fun _ _ _ _ _ near => .ok ⟨rfl, near⟩
termination_by first.remaining

end Nested

mutual

theorem binary_alike {bound other : Nat} {nested : Nested bound} {nestedOther : Nested other}
    (nestedAlike : NestedAlike bound other nested nestedOther) {first second : Cursor}
    (level : Nat) (fits : first.remaining ≤ bound) (fitsOther : second.remaining ≤ other)
    (near : Near first second) :
    ParseResult.Alike (binary bound (unary bound nested) level first fits)
      (binary other (unary other nestedOther) level second fitsOther) := by
  unfold binary
  refine (unary_alike nestedAlike fits fitsOther near).bind fun left _ _ _ _ near => ?_
  exact (operators_alike nestedAlike level left _ _ near).bind
    fun _ _ _ _ _ near => .ok ⟨rfl, near⟩
termination_by 2 * first.remaining

theorem operators_alike {bound other : Nat} {nested : Nested bound} {nestedOther : Nested other}
    (nestedAlike : NestedAlike bound other nested nestedOther) {first second : Cursor}
    (level : Nat) (left : Expr) (fits : first.remaining ≤ bound)
    (fitsOther : second.remaining ≤ other) (near : Near first second) :
    ParseResult.Alike (operators bound (unary bound nested) level left first fits)
      (operators other (unary other nestedOther) level left second fitsOther) := by
  unfold operators
  split
  case h_1 op precedence span afterOp lt found =>
    obtain ⟨afterOpOther, lt', foundOther, near⟩ := FoundAlike.of_some found
      (near.select? _ rfl)
    rw [foundOther]
    refine (binary_alike nestedAlike _ _ _ near).bind fun right _ _ _ _ near => ?_
    exact (operators_alike nestedAlike level _ _ _ near).bind
      fun _ _ _ _ _ near => .ok ⟨rfl, near⟩
  case h_2 nothing =>
    rw [FoundAlike.of_none nothing (near.select? _ rfl)]
    exact .ok ⟨rfl, near⟩
termination_by 2 * first.remaining + 1

end

theorem expression_alike {first second : Cursor} (near : Near first second) :
    ParseResult.Alike first.expression second.expression := by
  have nestedAlike : NestedAlike first.remaining second.remaining (inner _) (inner _) :=
    fun _ _ near => expression_alike near
  unfold expression ternary
  refine (binary_alike nestedAlike 1 _ _ near).bind fun condition _ _ _ _ near => ?_
  dsimp only
  split
  case h_1 span afterMark lt found =>
    obtain ⟨afterMarkOther, lt', foundOther, near⟩ := FoundAlike.of_some found
      (near.accept? _ rfl)
    rw [foundOther]
    refine (expression_alike near).bind fun whenTrue _ _ _ _ near => ?_
    refine (near.expect _ _ rfl).bind fun _ _ _ _ _ near => ?_
    exact (expression_alike near).bind fun whenFalse _ _ _ _ near => .ok ⟨rfl, near⟩
  case h_2 nothing =>
    rw [FoundAlike.of_none nothing (near.accept? _ rfl)]
    exact .ok ⟨rfl, near⟩
termination_by first.remaining

/-! ## Statements and programs -/

theorem Near.declarationKind? {first second : Cursor} (near : Near first second) :
    FoundAlike first.declarationKind? second.declarationKind? := by
  unfold Cursor.declarationKind?
  rcases near.select? (fun kind => do
    let name ← kind.identifier?
    return (← DeclarationKind.ofName? name, name)) rfl with
    ⟨none, noneOther⟩ | ⟨⟨⟨kind, name⟩, span⟩, _, _, _, _, found, foundOther, near⟩
  · rw [none, noneOther]
    exact .inl ⟨rfl, rfl⟩
  · rw [found, foundOther]
    simp only [Option.bind_eq_bind, Option.bind_some, near.isAt]
    split
    case isTrue => exact .inr ⟨_, _, _, _, _, rfl, rfl, near⟩
    case isFalse => exact .inl ⟨rfl, rfl⟩

theorem statement_alike {first second : Cursor} (near : Near first second) :
    ParseResult.Alike first.statement second.statement := by
  unfold statement
  split
  case h_1 span afterIf lt found =>
    obtain ⟨afterIfOther, lt', foundOther, near⟩ := FoundAlike.of_some found (near.accept? _ rfl)
    rw [foundOther]
    refine (expression_alike near).bind fun condition afterCondition _ _ _ near => ?_
    refine (statement_alike near.skipBreaks).bind fun thenBranch afterThen _ _ _ near => ?_
    dsimp only
    split
    case h_1 _ afterElse _ found =>
      obtain ⟨_, _, foundOther, near⟩ := FoundAlike.of_some found (near.skipBreaks.accept? _ rfl)
      rw [foundOther]
      exact (statement_alike near.skipBreaks).bind fun _ _ _ _ _ near => .ok ⟨rfl, near⟩
    case h_2 nothing =>
      rw [FoundAlike.of_none nothing (near.skipBreaks.accept? _ rfl)]
      exact .ok ⟨rfl, near⟩
  case h_2 nothing =>
    rw [FoundAlike.of_none nothing (near.accept? _ rfl), assignmentTarget?_eq,
      assignmentTarget?_eq]
    rcases near.nameBefore? TokenKind.isAssignment rfl with
      ⟨none, noneOther⟩ | ⟨⟨name, span⟩, _, _, _, _, found, foundOther, after⟩
    · rw [none, noneOther]
      rcases near.declarationKind? with
        ⟨none, noneOther⟩ | ⟨⟨⟨kind, name⟩, span⟩, _, _, _, _, found, foundOther, _⟩
      · rw [none, noneOther, near.current]
        exact (expression_alike near).bind fun _ _ _ _ _ near => .ok ⟨rfl, near⟩
      · rw [found, foundOther]
        exact .error _
    · rw [found, foundOther]
      exact (expression_alike after).bind fun _ _ _ _ _ near => .ok ⟨rfl, near⟩
termination_by first.remaining
decreasing_by all_goals grind [remaining_skipBreaks_le]

/-- Behind the end of a statement cursors are near once the breaks there are skipped. -/
theorem statementEnd_alike {first second : Cursor} (near : Near first second) :
    (∃ error, first.statementEnd = .error error ∧ second.statementEnd = .error error) ∨
      ∃ next nextOther lt lt', first.statementEnd = .ok ⟨(), next, lt⟩ ∧
        second.statementEnd = .ok ⟨(), nextOther, lt'⟩ ∧
        Near next.skipBreaks nextOther.skipBreaks := by
  unfold statementEnd
  rcases near.cases_takes with
    ⟨atEnd, atEndOther⟩ | ⟨token, next, nextOther, taken, takenOther, behind⟩
  case inr =>
    by_cases isBreak : token.kind = .newline
    · have skipped : Near next.skipBreaks nextOther.skipBreaks :=
        behind.elim Near.skipBreaks And.right
      rw [taken.accept? (by rw [isBreak]), takenOther.accept? (by rw [isBreak])]
      exact .inr ⟨_, _, _, _, rfl, rfl, skipped⟩
    · rw [accept?_of_false (by rw [taken.kind]; split <;> trivial),
        accept?_of_false (by rw [takenOther.kind]; split <;> trivial), near.isAt, near.unexpected]
      dsimp only
      split
      case isTrue =>
        exact .inr ⟨first, second, Nat.lt_succ_self _, Nat.lt_succ_self _, rfl, rfl,
          near.skipBreaks⟩
      case isFalse => exact .inl ⟨_, rfl, rfl⟩
  case inl =>
    rw [accept?_of_nil atEnd, accept?_of_nil atEndOther, near.isAt, near.unexpected]
    dsimp only
    split
    case isTrue =>
      exact .inr ⟨first, second, Nat.lt_succ_self _, Nat.lt_succ_self _, rfl, rfl,
        near.skipBreaks⟩
    case isFalse => exact .inl ⟨_, rfl, rfl⟩

theorem statements_alike {first second : Cursor} (near : Near first.skipBreaks second.skipBreaks) :
    ParseResult.Alike first.statements second.statements := by
  unfold statements
  simp only [near.isAt]
  split
  case isTrue => exact .ok ⟨rfl, near⟩
  case isFalse =>
    refine (statement_alike near).bind fun statement afterFirst _ _ _ near => ?_
    dsimp only
    rcases statementEnd_alike near with
      ⟨error, failed, failedOther⟩ | ⟨next, nextOther, _, _, ended, endedOther, near⟩
    · rw [failed, failedOther]
      exact .error error
    · rw [ended, endedOther, ok_bind, ok_bind]
      exact (statements_alike near).bind fun _ _ _ _ _ near => .ok ⟨rfl, near⟩
termination_by first.remaining
decreasing_by grind [remaining_skipBreaks_le]

theorem body_alike {first second : Cursor} (version : Nat) (declaration : Option Declaration)
    (near : Near first.skipBreaks second.skipBreaks) :
    Prod.fst <$> first.body version declaration = Prod.fst <$> second.body version declaration := by
  have alike := statements_alike near
  unfold body
  generalize first.statements = result at alike ⊢
  generalize second.statements = resultOther at alike ⊢
  cases alike with
  | error error => rfl
  | @ok parsed parsedOther alike =>
    show Except.ok _ = Except.ok _
    rw [alike.value, alike.next.nextSite]

theorem program_alike {first second : Cursor} (version : first.version.1 = second.version.1)
    (near : Near first.skipBreaks second.skipBreaks) :
    Prod.fst <$> first.program = Prod.fst <$> second.program := by
  rcases near.declarationKind? with
    ⟨none, noneOther⟩ | ⟨⟨⟨kind, name⟩, span⟩, next, nextOther, _, _, found, foundOther, near⟩
  · rw [program_of_declarationKind?_none none, program_of_declarationKind?_none noneOther, version]
    exact body_alike second.version.1 Option.none near.skipBreaks
  · rw [program_of_declarationKind?_some found, program_of_declarationKind?_some foundOther, version]
    have nestedAlike : NestedAlike next.remaining nextOther.remaining (inner _) (inner _) :=
      fun _ _ near => expression_alike near
    have called := callArguments_alike nestedAlike name next.remaining_le_self
      nextOther.remaining_le_self near
    generalize callArguments next.remaining _ name next _ = result at called ⊢
    generalize callArguments nextOther.remaining _ name nextOther _ = resultOther at called ⊢
    cases called with
    | error error => rfl
    | @ok call callOther alike =>
      obtain ⟨call, afterCall, _⟩ := call
      obtain ⟨_, afterCallOther, _⟩ := callOther
      obtain ⟨rfl, near⟩ := alike
      simp only [ok_bind]
      rcases statementEnd_alike near with
        ⟨error, failed, failedOther⟩ | ⟨next, nextOther, _, _, ended, endedOther, near⟩
      · rw [failed, failedOther]
        rfl
      · rw [ended, endedOther]
        exact body_alike second.version.1 (some ⟨kind, call, span⟩) near

/-- The version is stated by the first token that is no line break. -/
theorem version_append {front : List Token} (behind : ∃ token ∈ front, token.kind ≠ .newline)
    (tokens : List Token) (finish : Token) (site : Nat) :
    (version ⟨front ++ tokens, finish, site⟩).1 = (version ⟨front, finish, site⟩).1 := by
  induction front with
  | nil => simp at behind
  | cons token rest ih =>
    by_cases isBreak : token.kind = .newline
    · have onLine (others : List Token) : (version ⟨token :: others, finish, site⟩).1 =
          (version ⟨others, finish, site⟩).1 := by
        simp only [version, moveTo, List.dropWhile_cons, isBreak, if_true]
      rw [List.cons_append, onLine, onLine]
      refine ih ?_
      simpa [isBreak] using behind
    · obtain ⟨kind, text, span⟩ := token
      cases kind with
      | newline => exact absurd rfl isBreak
      | _ => rfl

end Cursor

theorem parseTokens_eq (tokens : List Token) :
    parseTokens tokens = Prod.fst <$> (Cursor.ofTokens tokens).program := by
  unfold parseTokens
  cases (Cursor.ofTokens tokens).program <;> rfl

/-- A version comment behind a line break can be left out, if it is not the first token but for
line breaks. -/
theorem parseTokens_without_version {front others : List Token} {newline version last : Token}
    {comment : String} (behind : ∃ token ∈ front, token.kind ≠ .newline)
    (isBreak : newline.kind = .newline) (isVersion : version.kind = .versionComment comment)
    (ended : last.kind = .endOfInput) :
    parseTokens (front ++ newline :: version :: others ++ [last]) =
      parseTokens (front ++ newline :: others ++ [last]) := by
  rw [parseTokens_eq, parseTokens_eq, Cursor.ofTokens_append _ ended,
    Cursor.ofTokens_append _ ended]
  have drops : DropsVersions (front ++ newline :: version :: others) (front ++ newline :: others) :=
    .append front (.drop isBreak isVersion (.same others))
  have near : Near ⟨front ++ newline :: version :: others, last, 0⟩
    ⟨front ++ newline :: others, last, 0⟩ := ⟨drops, rfl, rfl⟩
  refine Cursor.program_alike ?_ near.skipBreaks
  rw [Cursor.version_append behind, Cursor.version_append behind]

end ChartScript
