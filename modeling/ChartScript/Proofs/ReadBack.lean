import ChartScript.Proofs.DisplayTokens
import ChartScript.Proofs.Renumbering

/-!
# Reading back displayed expressions

Where the tokens stand that an expression is displayed as, an expression of the same shape can be
derived. The parentheses of the display make every operator a primary. The forms without
parentheses are postfixes of a primary; `Heads` is what all of them have in common, since a name
is read as one expression however many points it has.
-/

set_option autoImplicit false

namespace ChartScript

namespace Cursor

variable {cursor middle next : Cursor} {first : TokenKind} {kinds others : List TokenKind}

/-- The cursor before the same tokens, with another number for the next site: what is derived from
an earlier cursor may give sites away. -/
def withSite (cursor : Cursor) (site : Nat) : Cursor :=
  { cursor with nextSite := site }

/-- From the cursor up to the next one stand tokens of these kinds. -/
def Shows (cursor : Cursor) (kinds : List TokenKind) (next : Cursor) : Prop :=
  ∃ read, cursor = ⟨read ++ next.rest, next.finish, next.nextSite⟩ ∧ read.map Token.kind = kinds

theorem Shows.of_nil (shows : cursor.Shows [] next) : cursor = next := by
  obtain ⟨read, rfl, same⟩ := shows
  rw [List.map_eq_nil_iff.mp same]
  rfl

theorem Shows.of_cons (shows : cursor.Shows (first :: kinds) next) :
    ∃ token middle, cursor.Takes token middle ∧ token.kind = first ∧ middle.Shows kinds next := by
  obtain ⟨read, rfl, same⟩ := shows
  obtain ⟨token, read, rfl, isKind, rest⟩ := List.map_eq_cons_iff.mp same
  exact ⟨token, ⟨read ++ next.rest, next.finish, next.nextSite⟩, rfl, isKind, read, rfl, rest⟩

theorem Shows.of_append (shows : cursor.Shows (kinds ++ others) next) :
    ∃ middle, cursor.Shows kinds middle ∧ middle.Shows others next := by
  obtain ⟨read, rfl, same⟩ := shows
  obtain ⟨read, more, rfl, same, sameMore⟩ := List.map_eq_append_iff.mp same
  refine ⟨⟨more ++ next.rest, next.finish, next.nextSite⟩, ⟨read, ?_, same⟩, more, rfl, sameMore⟩
  rw [List.append_assoc]

theorem Shows.of_single (shows : cursor.Shows [first] next) :
    ∃ token, cursor.Takes token next ∧ token.kind = first := by
  obtain ⟨token, middle, taken, isKind, rest⟩ := shows.of_cons
  cases rest.of_nil
  exact ⟨token, taken, isKind⟩

theorem Shows.kind (shows : cursor.Shows (first :: kinds) next) : cursor.kind = first := by
  obtain ⟨token, middle, taken, isKind, _⟩ := shows.of_cons
  exact taken.kind.trans isKind

theorem Shows.withSite (shows : cursor.Shows kinds next) (site : Nat) :
    (cursor.withSite site).Shows kinds (next.withSite site) := by
  obtain ⟨read, rfl, same⟩ := shows
  exact ⟨read, rfl, same⟩

/-! ## Primaries and what follows them -/

variable {value extended : Expr} {path name : String} {span : Span}

/-- A primary stands at the cursor, and what follows it up to the next one makes it the value. -/
def Heads (cursor : Cursor) (value : Expr) (next : Cursor) : Prop :=
  ∃ head middle, Derives cursor (.primary head) middle ∧ ∀ whole final,
    Derives next (.suffixes value whole) final → Derives middle (.suffixes head whole) final

theorem Heads.of_primary (derived : Derives cursor (.primary value) next) :
    Heads cursor value next :=
  ⟨value, next, derived, fun _ _ => id⟩

theorem Heads.extend (heads : Heads cursor value middle)
    (further : ∀ whole final, Derives next (.suffixes extended whole) final →
      Derives middle (.suffixes value whole) final) : Heads cursor extended next := by
  obtain ⟨head, behind, derived, continues⟩ := heads
  exact ⟨head, behind, derived, fun whole final others => continues _ _ (further _ _ others)⟩

theorem Heads.unary (heads : Heads cursor value next) (noOp : cursor.kind.unaryOp? = none)
    (undotted : next.kind ≠ .dot) (unopened : next.kind ≠ .leftBracket) :
    Derives cursor (.unary value) next := by
  obtain ⟨head, middle, derived, continues⟩ := heads
  exact .operand noOp derived (continues _ _ (.noSuffix undotted unopened))

/-- The tokens up to the next cursor are read as the path before what follows it is. -/
def Names (cursor : Cursor) (path : String) (span : Span) (next : Cursor) : Prop :=
  ∀ value final, Derives next (.nameOrCall path span value) final → Heads cursor value final

theorem Names.longer {dot token : Token} {afterDot afterName : Cursor}
    (names : Names cursor path span next) (dotted : next.Takes dot afterDot) (isDot : dot.kind = .dot)
    (taken : afterDot.Takes token afterName) (isName : token.kind = .identifier name) :
    Names cursor (path ++ "." ++ name) span afterName := by
  intro value final derived
  have uncalled : next.kind ≠ .leftParen := by
    rw [dotted.kind, isDot]
    exact nofun
  -- The shorter name is a primary of its own. What is derived here is one of its suffixes.
  exact (names _ _ (.uncalled uncalled)).extend fun whole last others =>
    .longerName dotted isDot taken isName derived others

theorem Names.all {words : List (List Char)} (names : Names cursor path span middle)
    (shows : middle.Shows (words.flatMap fun word => [.dot, .identifier (String.ofList word)]) next) :
    Names cursor (path ++ String.ofList (words.flatMap (['.'] ++ ·))) span next := by
  induction words generalizing path middle with
  | nil =>
    cases shows.of_nil
    simpa using names
  | cons word words ih =>
    obtain ⟨dot, afterDot, dotted, isDot, shows⟩ := shows.of_cons
    obtain ⟨token, afterName, taken, isName, shows⟩ := shows.of_cons
    have joined : path ++ String.ofList ((word :: words).flatMap (['.'] ++ ·)) =
        path ++ "." ++ String.ofList word ++ String.ofList (words.flatMap (['.'] ++ ·)) := by
      apply String.toList_inj.mp
      simp
    rw [joined]
    exact ih (names.longer dotted isDot taken isName) shows

theorem names_of_shows (shows : cursor.Shows (Lexer.pathKinds path) next) :
    ∃ span, Names cursor path span next := by
  obtain ⟨word, words, _, joined, kinds⟩ := Lexer.exists_words path
  rw [kinds] at shows
  obtain ⟨token, middle, taken, isName, shows⟩ := shows.of_cons
  have names : Names cursor (String.ofList word) token.span middle := fun value final derived =>
    .of_primary (.named taken isName derived)
  have all := names.all shows
  rw [← String.ofList_append, ← joined, String.ofList_toList] at all
  exact ⟨token.span, all⟩

end Cursor

namespace TokenKind

/-- Stands behind an operand: nothing that would belong to it. -/
def endsOperand : TokenKind → Bool
  | .dot | .leftBracket | .leftParen => false
  | _ => true

/-- Stands behind an expression that was displayed. -/
def endsExpression : TokenKind → Bool
  | .rightParen | .rightBracket | .comma | .colon | .endOfInput => true
  | _ => false

variable {kind : TokenKind}

theorem endsOperand_ne (ends : kind.endsOperand = true) :
    kind ≠ .dot ∧ kind ≠ .leftBracket ∧ kind ≠ .leftParen := by
  refine ⟨?_, ?_, ?_⟩ <;> rintro rfl <;> cases ends

theorem endsOperand_of_endsExpression (ends : kind.endsExpression = true) :
    kind.endsOperand = true := by
  cases kind <;> first | rfl | cases ends

theorem binaryOp?_of_endsExpression (ends : kind.endsExpression = true) :
    kind.binaryOp? = none := by
  cases kind <;> first | rfl | cases ends

theorem ne_question_of_endsExpression (ends : kind.endsExpression = true) : kind ≠ .question := by
  rintro rfl
  cases ends

theorem isAssign_of_endsExpression (ends : kind.endsExpression = true) : kind.isAssign = false := by
  cases kind <;> first | rfl | cases ends

/-- The tokens start with an operand, and not with the name of an argument before its sign. -/
def Leads (kinds : List TokenKind) : Prop :=
  ∃ first rest, kinds = first :: rest ∧ first.unaryOp? = none ∧ first ≠ .rightParen ∧
    (first.identifier? = none ∨ ∀ second ∈ rest.head?, second.isAssign = false)

theorem Leads.append {kinds others : List TokenKind} (leads : Leads kinds)
    (unassigned : ∀ second ∈ others.head?, second.isAssign = false) : Leads (kinds ++ others) := by
  obtain ⟨first, rest, rfl, noOp, notClosing, begins⟩ := leads
  refine ⟨first, rest ++ others, rfl, noOp, notClosing, begins.imp_right fun known => ?_⟩
  cases rest with
  | nil => exact unassigned
  | cons => exact known

end TokenKind

namespace Cursor

open TokenKind (Leads)

variable {cursor next : Cursor} {kinds : List TokenKind}

theorem Shows.noUnaryOp (shows : cursor.Shows kinds next) (leads : Leads kinds) :
    cursor.kind.unaryOp? = none := by
  obtain ⟨first, rest, rfl, noOp, _⟩ := leads
  rwa [shows.kind]

theorem Shows.ne_rightParen (shows : cursor.Shows kinds next) (leads : Leads kinds) :
    cursor.kind ≠ .rightParen := by
  obtain ⟨first, rest, rfl, _, notClosing, _⟩ := leads
  rwa [shows.kind]

theorem Shows.not_startsName (shows : cursor.Shows kinds next) (leads : Leads kinds)
    (unassigned : next.kind.isAssign = false) : ¬cursor.StartsName TokenKind.isAssign := by
  rintro ⟨token, afterName, name, taken, isName, isSign⟩
  obtain ⟨first, rest, rfl, _, _, begins⟩ := leads
  obtain ⟨token', middle, taken', isFirst, shows⟩ := shows.of_cons
  obtain ⟨rfl, rfl⟩ := taken.unique taken'
  rw [← isFirst, isName] at begins
  have known := begins.resolve_left nofun
  cases rest with
  | nil =>
    cases shows.of_nil
    rw [isSign] at unassigned
    cases unassigned
  | cons second rest =>
    rw [shows.kind, known second rfl] at isSign
    cases isSign

/-- An operand, before nothing that could follow it. -/
theorem Derives.binary_of_unary {value : Expr} (derived : Derives cursor (.unary value) next)
    (quiet : next.kind.binaryOp? = none) (level : Nat) :
    Derives cursor (.binary level value) next := by
  refine .operands derived (.noOperator fun op precedence isOp => ?_)
  rw [quiet] at isOp
  cases isOp

theorem Derives.expression_of_binary {value : Expr}
    (derived : Derives cursor (.binary 1 value) next) (ends : next.kind.endsExpression = true) :
    Derives cursor (.expression value) next :=
  .operation derived (TokenKind.ne_question_of_endsExpression ends)

end Cursor

namespace Expr

open TokenKind (Leads)
open Cursor (Shows Heads Derives)

theorem leads_pathKinds (path : String) : Leads (Lexer.pathKinds path) := by
  obtain ⟨word, words, _, _, kinds⟩ := Lexer.exists_words path
  rw [kinds]
  refine ⟨_, _, rfl, rfl, nofun, .inr ?_⟩
  cases words with
  | nil => exact nofun
  | cons => exact fun _ same => Option.some.inj same ▸ rfl

theorem leads (expr : Expr) : Leads expr.kinds := by
  have open_ (rest : List TokenKind) : Leads (.leftParen :: rest) :=
    ⟨_, _, rfl, rfl, nofun, .inl rfl⟩
  induction expr with
  | number | string | boolean | color => exact ⟨_, _, rfl, rfl, nofun, .inl rfl⟩
  | name path => exact leads_pathKinds path
  | member object name span known =>
    rw [kinds]
    exact known.append fun _ same => Option.some.inj same ▸ rfl
  | history series offset site span known =>
    rw [kinds]
    exact known.append fun _ same => Option.some.inj same ▸ rfl
  | unary | binary | ternary =>
    rw [kinds]
    exact open_ _
  | call function =>
    rw [kinds, Call.kinds]
    exact (leads_pathKinds function).append fun _ same => Option.some.inj same ▸ rfl

/-- Where its tokens stand, and no parenthesis behind them, an expression of the same shape can be
read. -/
def IsRead (expr : Expr) : Prop :=
  ∀ ⦃cursor next : Cursor⦄, cursor.Shows expr.kinds next → next.kind ≠ .leftParen →
    ∃ value site, value.shape = expr.shape ∧ Heads cursor value (next.withSite site)

section IsRead

variable {expr : Expr} {cursor next : Cursor}

theorem IsRead.unary (isRead : expr.IsRead) (shows : cursor.Shows expr.kinds next)
    (ends : next.kind.endsOperand = true) :
    ∃ value site, value.shape = expr.shape ∧ Derives cursor (.unary value) (next.withSite site) := by
  obtain ⟨undotted, unopened, uncalled⟩ := TokenKind.endsOperand_ne ends
  obtain ⟨value, site, shape, heads⟩ := isRead shows uncalled
  exact ⟨value, site, shape, heads.unary (shows.noUnaryOp expr.leads) undotted unopened⟩

theorem IsRead.binary (isRead : expr.IsRead) (shows : cursor.Shows expr.kinds next)
    (ends : next.kind.endsOperand = true) (quiet : next.kind.binaryOp? = none) (level : Nat) :
    ∃ value site, value.shape = expr.shape ∧
      Derives cursor (.binary level value) (next.withSite site) := by
  obtain ⟨value, site, shape, derived⟩ := isRead.unary shows ends
  exact ⟨value, site, shape, derived.binary_of_unary quiet level⟩

theorem IsRead.expression (isRead : expr.IsRead) (shows : cursor.Shows expr.kinds next)
    (ends : next.kind.endsExpression = true) :
    ∃ value site, value.shape = expr.shape ∧
      Derives cursor (.expression value) (next.withSite site) := by
  obtain ⟨value, site, shape, derived⟩ := isRead.binary shows
    (TokenKind.endsOperand_of_endsExpression ends) (TokenKind.binaryOp?_of_endsExpression ends) 1
  exact ⟨value, site, shape, derived.expression_of_binary ends⟩

end IsRead

theorem heads_parenthesised {cursor inside atEnd next : Cursor} {opening : Token} {value : Expr}
    {site : Nat} (opened : cursor.Takes opening inside) (isOpening : opening.kind = .leftParen)
    (inner : Derives inside (.expression value) (atEnd.withSite site))
    (shows : atEnd.Shows [.rightParen] next) : Heads cursor value (next.withSite site) := by
  obtain ⟨closing, closed, isClosing⟩ := (shows.withSite site).of_single
  exact .of_primary (.parenthesised opened isOpening inner closed isClosing)

theorem isRead_unary {op : UnaryOp} {operand : Expr} {span : Span} (isRead : operand.IsRead) :
    (Expr.unary op operand span).IsRead := by
  intro cursor next shows _
  obtain ⟨opening, inside, opened, isOpening, shows⟩ := shows.of_cons
  obtain ⟨token, afterOp, taken, isSign, shows⟩ := shows.of_cons
  obtain ⟨atEnd, own, closing⟩ := shows.of_append
  have ends : atEnd.kind.endsExpression = true := by rw [closing.kind]; rfl
  obtain ⟨value, site, shape, derived⟩ :=
    isRead.unary own (TokenKind.endsOperand_of_endsExpression ends)
  have isOp : token.kind.unaryOp? = some op := by
    rw [isSign]
    cases op <;> rfl
  have whole := Derives.binary_of_unary (.unaryOperator taken isOp derived)
    (TokenKind.binaryOp?_of_endsExpression ends) 1
  exact ⟨.unary op value token.span, site, congrArg (Expr.unary op · .nowhere) shape,
    heads_parenthesised opened isOpening (whole.expression_of_binary ends) closing⟩

theorem binaryOp?_kind (op : BinaryOp) :
    ∃ precedence, op.kind.binaryOp? = some (op, precedence) ∧ 1 ≤ precedence := by
  cases op <;> exact ⟨_, rfl, by decide⟩

theorem isRead_binary {left right : Expr} {op : BinaryOp} {span : Span} (leftRead : left.IsRead)
    (rightRead : right.IsRead) : (Expr.binary left op right span).IsRead := by
  intro cursor next shows _
  obtain ⟨opening, inside, opened, isOpening, shows⟩ := shows.of_cons
  obtain ⟨atOp, leftShows, shows⟩ := shows.of_append
  have atOp_ends : atOp.kind.endsOperand = true := by
    rw [shows.kind]
    cases op <;> rfl
  obtain ⟨leftValue, leftSite, leftShape, leftDerived⟩ := leftRead.unary leftShows atOp_ends
  obtain ⟨token, afterOp, taken, isSign, shows⟩ := (shows.withSite leftSite).of_cons
  obtain ⟨atEnd, rightShows, closing⟩ := shows.of_append
  have ends : atEnd.kind.endsExpression = true := by rw [closing.kind]; rfl
  obtain ⟨precedence, isOp, binds⟩ := binaryOp?_kind op
  obtain ⟨rightValue, site, rightShape, rightDerived⟩ := rightRead.binary rightShows
    (TokenKind.endsOperand_of_endsExpression ends) (TokenKind.binaryOp?_of_endsExpression ends)
    (precedence + 1)
  -- The right operand is in parentheses itself, so it takes nothing of what comes behind it.
  have whole : Derives inside (.binary 1 (.binary leftValue op rightValue token.span))
      (atEnd.withSite site) := by
    refine .operands leftDerived (.operator taken (isSign ▸ isOp) binds rightDerived ?_)
    refine .noOperator fun op precedence isOp => ?_
    cases (TokenKind.binaryOp?_of_endsExpression ends).symm.trans isOp
  have heads := heads_parenthesised opened isOpening (whole.expression_of_binary ends) closing
  exact ⟨.binary leftValue op rightValue token.span, site,
    congrArg₂ (Expr.binary · op · .nowhere) leftShape rightShape, heads⟩

theorem isRead_ternary {condition whenTrue whenFalse : Expr} {span : Span}
    (conditionRead : condition.IsRead) (trueRead : whenTrue.IsRead) (falseRead : whenFalse.IsRead) :
    (Expr.ternary condition whenTrue whenFalse span).IsRead := by
  intro cursor next shows _
  obtain ⟨opening, inside, opened, isOpening, shows⟩ := shows.of_cons
  obtain ⟨atMark, conditionShows, shows⟩ := shows.of_append
  obtain ⟨conditionValue, firstSite, conditionShape, conditionDerived⟩ :=
    conditionRead.binary conditionShows (by rw [shows.kind]; rfl) (by rw [shows.kind]; rfl) 1
  obtain ⟨mark, afterMark, marked, isMark, shows⟩ := (shows.withSite firstSite).of_cons
  obtain ⟨atColon, trueShows, shows⟩ := shows.of_append
  obtain ⟨trueValue, secondSite, trueShape, trueDerived⟩ :=
    trueRead.expression trueShows (by rw [shows.kind]; rfl)
  obtain ⟨colon, afterColon, parted, isColon, shows⟩ := (shows.withSite secondSite).of_cons
  obtain ⟨atEnd, falseShows, closing⟩ := shows.of_append
  obtain ⟨falseValue, site, falseShape, falseDerived⟩ :=
    falseRead.expression falseShows (by rw [closing.kind]; rfl)
  have heads := heads_parenthesised opened isOpening (.choice conditionDerived marked isMark
    trueDerived parted isColon falseDerived) closing
  refine ⟨.ternary conditionValue trueValue falseValue mark.span, site, ?_, heads⟩
  rw [shape, relabel, ← shape, ← shape, ← shape, conditionShape, trueShape, falseShape]
  rfl

theorem isRead_literal {expr : Expr} {kind : TokenKind} (kinds : expr.kinds = [kind])
    (read : ∀ token : Token, token.kind = kind →
      ∃ value, token.literal? = some value ∧ value.shape = expr.shape) : expr.IsRead := by
  intro cursor next shows _
  rw [kinds] at shows
  obtain ⟨token, taken, isKind⟩ := shows.of_single
  obtain ⟨value, isLiteral, shape⟩ := read token isKind
  exact ⟨value, next.nextSite, shape, .of_primary (.literal taken isLiteral)⟩

theorem isRead_name (path : String) (span : Span) : (Expr.name path span).IsRead := by
  intro cursor next shows uncalled
  obtain ⟨place, names⟩ := Cursor.names_of_shows shows
  exact ⟨.name path place, next.nextSite, rfl, names _ _ (.uncalled uncalled)⟩

theorem isName_shape (expr : Expr) : expr.shape.isName = expr.isName := by
  cases expr <;> rfl

theorem isRead_member {object : Expr} {name : String} {span : Span} (isRead : object.IsRead)
    (unnamed : object.isName = false) : (Expr.member object name span).IsRead := by
  intro cursor next shows uncalled
  obtain ⟨atDot, own, shows⟩ := Shows.of_append shows
  obtain ⟨value, site, shape, heads⟩ := isRead own (by rw [shows.kind]; exact nofun)
  obtain ⟨dot, afterDot, dotted, isDot, shows⟩ := (shows.withSite site).of_cons
  obtain ⟨token, taken, isName⟩ := shows.of_single
  have unnamed : value.isName = false := by rw [← isName_shape, shape, isName_shape, unnamed]
  refine ⟨.member value name token.span, site, congrArg (Expr.member · name .nowhere) shape, ?_⟩
  exact heads.extend fun whole final others =>
    .member unnamed dotted isDot taken isName uncalled others

theorem isRead_history {series offset : Expr} {number : Nat} {span : Span}
    (seriesRead : series.IsRead) (offsetRead : offset.IsRead) :
    (Expr.history series offset number span).IsRead := by
  intro cursor next shows _
  obtain ⟨atOpening, own, shows⟩ := Shows.of_append shows
  obtain ⟨seriesValue, firstSite, seriesShape, heads⟩ :=
    seriesRead own (by rw [shows.kind]; exact nofun)
  obtain ⟨opening, inside, opened, isOpening, shows⟩ := (shows.withSite firstSite).of_cons
  obtain ⟨atEnd, offsetShows, shows⟩ := shows.of_append
  obtain ⟨offsetValue, site, offsetShape, derived⟩ :=
    offsetRead.expression offsetShows (by rw [shows.kind]; rfl)
  obtain ⟨closing, closed, isClosing⟩ := (shows.withSite site).of_single
  refine ⟨.history seriesValue offsetValue site opening.span, site + 1, ?_,
    heads.extend fun whole final others => .history opened isOpening derived closed isClosing others⟩
  exact congrArg₂ (Expr.history · · 0 .nowhere) seriesShape offsetShape

end Expr

/-! ## Arguments -/

/-- An argument of a call, as it is written: with a name or without. -/
inductive Passed where
  | positional (value : Expr)
  | named (argument : NamedArgument)

namespace Cursor.ArgumentList

def shape (list : ArgumentList) : ArgumentList :=
  ⟨list.positional.map Expr.shape, list.named.map NamedArgument.shape⟩

def names (list : ArgumentList) : List String :=
  list.named.map NamedArgument.name

theorem names_shape (list : ArgumentList) : list.shape.names = list.names := by
  rw [names, names, shape, List.map_map]
  exact List.map_congr_left fun argument _ => argument.shape_name

end Cursor.ArgumentList

namespace Passed

open Cursor (ArgumentList Derives Shows)

def value : Passed → Expr
  | positional value => value
  | named argument => argument.value

def kinds : Passed → List TokenKind
  | positional value => value.kinds
  | named argument => argument.kinds

def shape : Passed → Passed
  | positional value => positional value.shape
  | named argument => named argument.shape

def names : Passed → List String
  | positional _ => []
  | named argument => [argument.name]

def addTo (list : ArgumentList) : Passed → ArgumentList
  | positional value => list.addPositional value
  | named argument => list.addNamed argument

/-- The arguments of a call in the order in which they are displayed. -/
def all (arguments : List Expr) (named : List NamedArgument) : List Passed :=
  arguments.map positional ++ named.map Passed.named

variable {arguments : List Expr} {named : List NamedArgument}

theorem map_kinds_all :
    (all arguments named).map kinds =
      Expr.kindsOfAll arguments ++ NamedArgument.kindsOfAll named := by
  rw [all, List.map_append, List.map_map, List.map_map, Expr.kindsOfAll_eq_map,
    NamedArgument.kindsOfAll_eq_map]
  rfl

theorem names_all : (all arguments named).flatMap names = named.map NamedArgument.name := by
  rw [all, List.flatMap_append, List.flatMap_map, List.flatMap_map, List.map_eq_flatMap]
  simp [names]

theorem foldl_addTo (list : ArgumentList) :
    (all arguments named).foldl addTo list =
      ⟨list.positional ++ arguments, list.named ++ named⟩ := by
  have positionals : (arguments.map positional).foldl addTo list =
      ⟨list.positional ++ arguments, list.named⟩ := by
    induction arguments generalizing list with
    | nil => simp
    | cons argument rest ih => simp [ih, addTo, ArgumentList.addPositional]
  have nameds (list : ArgumentList) : (named.map Passed.named).foldl addTo list =
      ⟨list.positional, list.named ++ named⟩ := by
    induction named generalizing list with
    | nil => simp
    | cons argument rest ih => simp [ih, addTo, ArgumentList.addNamed]
  rw [all, List.foldl_append, positionals, nameds]

theorem map_shape_all :
    (all arguments named).map shape =
      all (arguments.map Expr.shape) (named.map NamedArgument.shape) := by
  simp [all, Function.comp_def, shape]

theorem shape_addTo (list : ArgumentList) (passed : Passed) :
    (addTo list passed).shape = addTo list.shape passed.shape := by
  cases passed <;>
    simp [addTo, ArgumentList.shape, shape, ArgumentList.addPositional, ArgumentList.addNamed]

theorem names_addTo (list : ArgumentList) (passed : Passed) :
    (addTo list passed).names = list.names ++ passed.names := by
  cases passed <;>
    simp [addTo, ArgumentList.names, names, ArgumentList.addPositional, ArgumentList.addNamed]

theorem names_shape (passed : Passed) : passed.shape.names = passed.names := by
  cases passed with
  | positional => rfl
  | named argument => exact congrArg (fun name => [name]) argument.shape_name

section Reading

variable {cursor next : Cursor}

theorem ne_rightParen {passed : Passed} (shows : cursor.Shows passed.kinds next) :
    cursor.kind ≠ .rightParen := by
  cases passed with
  | positional value => exact Shows.ne_rightParen shows value.leads
  | named argument =>
    obtain ⟨name, value, span⟩ := argument
    rw [Shows.kind shows]
    exact nofun

theorem read_argument {passed : Passed} (isRead : passed.value.IsRead)
    (shows : cursor.Shows passed.kinds next) (ends : next.kind.endsExpression = true)
    {before : ArgumentList} (new : ∀ name ∈ passed.names, name ∉ before.names) :
    ∃ after site, after.shape = addTo before.shape passed.shape ∧
      Derives cursor (.argument before after) (next.withSite site) := by
  cases passed with
  | positional expr =>
    obtain ⟨value, site, shape, derived⟩ := isRead.expression shows ends
    have unnamed := Shows.not_startsName shows expr.leads (TokenKind.isAssign_of_endsExpression ends)
    refine ⟨before.addPositional value, site, ?_, .positionalArgument unnamed derived⟩
    rw [Passed.shape, ← show value.shape = expr.shape from shape]
    exact shape_addTo before (positional value)
  | named argument =>
    obtain ⟨name, expr, span⟩ := argument
    obtain ⟨token, afterName, taken, isName, shows⟩ := shows.of_cons
    obtain ⟨sign, afterSign, assigned, isSign, shows⟩ := shows.of_cons
    obtain ⟨value, site, shape, derived⟩ := isRead.expression shows ends
    have unused : before.named.any (·.name = name) = false := by
      refine List.any_eq_false.mpr fun argument member same => ?_
      exact new name List.mem_cons_self (of_decide_eq_true same ▸ List.mem_map_of_mem member)
    refine ⟨before.addNamed (.mk name value token.span), site, ?_,
      .namedArgument taken isName assigned (isSign ▸ rfl) unused derived⟩
    rw [Passed.shape, NamedArgument.shape_mk, ← show value.shape = expr.shape from shape]
    exact shape_addTo before (.named (.mk name value token.span))

theorem read_arguments {list : List Passed} (isRead : ∀ passed ∈ list, passed.value.IsRead)
    (shows : cursor.Shows ([TokenKind.comma].intercalate (list.map kinds)) next)
    (ended : next.kind = .rightParen) {before : ArgumentList}
    (nodup : (before.names ++ list.flatMap names).Nodup) :
    ∃ after site, after.shape = (list.map shape).foldl addTo before.shape ∧
      Derives cursor (.argumentList before after) (next.withSite site) := by
  induction list generalizing cursor next before with
  | nil =>
    have same := shows.of_nil
    subst same
    exact ⟨before, cursor.nextSite, rfl, .noArgument ended⟩
  | cons passed rest ih =>
    obtain ⟨here, behind⟩ := List.forall_mem_cons.mp isRead
    rw [List.flatMap_cons, ← List.append_assoc] at nodup
    have new : ∀ name ∈ passed.names, name ∉ before.names := fun name member used =>
      List.disjoint_of_nodup_append (List.nodup_append.mp nodup).1 used member
    cases rest with
    | nil =>
      rw [List.map_singleton, List.intercalate_singleton] at shows
      obtain ⟨after, site, shape, derived⟩ :=
        read_argument here shows (by rw [ended]; rfl) new
      refine ⟨after, site, shape, .lastArgument (ne_rightParen shows) derived ?_⟩
      rw [show (next.withSite site).kind = _ from ended]
      exact nofun
    | cons other rest =>
      rw [List.map_cons, List.map_cons, List.intercalate_cons_cons, List.append_assoc] at shows
      obtain ⟨atComma, own, shows⟩ := shows.of_append
      obtain ⟨list, firstSite, shape, derived⟩ :=
        read_argument here own (by rw [shows.kind]; rfl) new
      obtain ⟨comma, afterComma, parted, isComma, shows⟩ := (shows.withSite firstSite).of_cons
      have names : list.names = before.names ++ passed.names := by
        rw [← list.names_shape, shape, names_addTo, before.names_shape, names_shape]
      obtain ⟨after, site, whole, others⟩ := ih behind shows ended (names ▸ nodup)
      rw [shape] at whole
      exact ⟨after, site, whole, .moreArguments (ne_rightParen own) derived parted isComma others⟩

end Reading

end Passed

namespace Expr

open Cursor (Shows Heads Derives)

theorem isRead_call {function : String} {number : Nat} {arguments : List Expr}
    {named : List NamedArgument} {span : Span} (isRead : ∀ argument ∈ arguments, argument.IsRead)
    (namedRead : ∀ argument ∈ named, argument.value.IsRead)
    (nodup : (named.map NamedArgument.name).Nodup) :
    (Expr.call (.mk function number arguments named) span).IsRead := by
  intro cursor next shows _
  obtain ⟨atOpening, path, shows⟩ := Shows.of_append shows
  obtain ⟨place, names⟩ := Cursor.names_of_shows path
  obtain ⟨opening, inside, opened, isOpening, shows⟩ := shows.of_cons
  obtain ⟨atEnd, list, closing⟩ := (shows.withSite (inside.nextSite + 1)).of_append
  rw [← Passed.map_kinds_all] at list
  have allRead : ∀ passed ∈ Passed.all arguments named, passed.value.IsRead :=
    List.forall_mem_append.mpr ⟨List.forall_mem_map.mpr isRead, List.forall_mem_map.mpr namedRead⟩
  obtain ⟨after, site, shape, derived⟩ := @Passed.read_arguments _ _ _ allRead list closing.kind
    .empty (Passed.names_all ▸ nodup)
  obtain ⟨token, closed, isClosing⟩ := (closing.withSite site).of_single
  refine ⟨.call (.mk function inside.nextSite after.positional after.named) place, site, ?_,
    names _ _ (.called (.callArguments opened isOpening derived closed isClosing))⟩
  rw [Passed.map_shape_all, Passed.foldl_addTo] at shape
  obtain ⟨positional, named⟩ := Cursor.ArgumentList.mk.inj shape
  rw [shape_call, shape_call, positional, named]
  rfl

/-- What is displayed can be read back. -/
theorem Shown.isRead {expr : Expr} (shown : expr.Shown) : expr.IsRead := by
  induction expr with
  | number value span =>
    refine isRead_literal rfl fun token isKind => ⟨.number value token.span, ?_, rfl⟩
    rw [Token.literal?, isKind]
  | string text span =>
    refine isRead_literal rfl fun token isKind => ⟨.string text token.span, ?_, rfl⟩
    have plain := (shown _ List.mem_cons_self).2
    rw [Token.literal?, isKind]
    simp only [Text.inner, String.toList_ofList, Text.unescape_quoted plain, String.ofList_toList]
  | boolean value span =>
    refine isRead_literal rfl fun token isKind => ⟨.boolean value token.span, ?_, rfl⟩
    rw [Token.literal?, isKind]
  | color => exact (shown _ List.mem_cons_self).2.elim
  | name path span => exact isRead_name path span
  | member object name span known =>
    obtain ⟨⟨⟨unnamed, _⟩, _⟩, inside⟩ := forall_parts_member.mp shown
    exact isRead_member (known inside) unnamed
  | history series offset number span known knownOffset =>
    obtain ⟨_, first, second⟩ := forall_parts_history.mp shown
    exact isRead_history (known first) (knownOffset second)
  | unary op operand span known => exact isRead_unary (known (forall_parts_unary.mp shown).2)
  | binary left op right span known knownRight =>
    obtain ⟨_, first, second⟩ := forall_parts_binary.mp shown
    exact isRead_binary (known first) (knownRight second)
  | ternary condition whenTrue whenFalse span known knownTrue knownFalse =>
    obtain ⟨_, first, second, third⟩ := forall_parts_ternary.mp shown
    exact isRead_ternary (known first) (knownTrue second) (knownFalse third)
  | call function number arguments named span known knownNamed =>
    obtain ⟨⟨⟨_, _, nodup⟩, _⟩, passed, passedNamed⟩ := forall_parts_call.mp shown
    exact isRead_call (fun argument member => known argument member (passed argument member))
      (fun argument member => knownNamed argument member (passedNamed argument member)) nodup

end Expr

namespace Cursor

theorem Takes.skipBreaks {cursor next : Cursor} {token : Token} (taken : cursor.Takes token next)
    (noBreak : token.kind.isBreak = false) : cursor.skipBreaks = cursor := by
  subst taken
  rw [Cursor.skipBreaks, List.dropWhile_cons_of_neg (by simp [noBreak])]
  rfl

/-- One assignment, at the end of the input, is a program. -/
theorem Derives.derivesProgram {cursor afterName afterSign final : Cursor} {token sign : Token}
    {name : String} {value : Expr} (derived : Derives afterSign (.expression value) final)
    (taken : cursor.Takes token afterName) (isName : token.kind = .identifier name)
    (ordinary : DeclarationKind.ofName? name = none) (assigned : afterName.Takes sign afterSign)
    (isSign : sign.kind = .assign) (ended : final.kind = .endOfInput) (nothing : final.rest = []) :
    DerivesProgram cursor none [.assign name value token.span] final := by
  have stays : cursor.skipBreaks = cursor := taken.skipBreaks (by rw [isName]; rfl)
  have atEnd : final.skipBreaks = final := by
    simp only [Cursor.skipBreaks, moveTo, nothing, List.dropWhile_nil]
    rw [← nothing]
  have none_left : DerivesAll final [] final.skipBreaks := .nil (by rw [atEnd]; exact ended)
  have undeclared : ¬cursor.StartsDeclaration := by
    rintro ⟨other, behind, word, takenWord, isWord, declares, _⟩
    obtain ⟨rfl, rfl⟩ := taken.unique takenWord
    cases isName.symm.trans isWord
    exact declares ordinary
  rw [atEnd] at none_left
  have assignment : DerivesAll cursor [.assign name value token.span] final := by
    refine .cons ?_ ?_ (.finished ended) none_left <;> rw [stays]
    · simp [taken.kind, isName]
    · exact .assign taken isName assigned (by rw [isSign]; rfl) derived
  refine .undeclared ?_ ?_ <;> rw [stays]
  · exact undeclared
  · exact assignment

/-- The tokens of one assignment are a program. -/
theorem derives_assignment {cursor next : Cursor} {name : String} {expr : Expr}
    (isRead : expr.IsRead) (ordinary : DeclarationKind.ofName? name = none)
    (shows : cursor.Shows (.identifier name :: .assign :: expr.kinds) next)
    (ended : next.kind = .endOfInput) (nothing : next.rest = []) :
    ∃ value span site, value.shape = expr.shape ∧ value.sites.Nodup ∧
      DerivesProgram cursor none [.assign name value span] (next.withSite site) := by
  obtain ⟨token, afterName, taken, isName, shows⟩ := shows.of_cons
  obtain ⟨sign, afterSign, assigned, isSign, shows⟩ := shows.of_cons
  obtain ⟨value, site, shape, derived⟩ := isRead.expression shows (by rw [ended]; rfl)
  exact ⟨value, token.span, site, shape, derived.numbered.nodup,
    derived.derivesProgram taken isName ordinary assigned isSign ended nothing⟩

end Cursor

namespace Lexer

open Scanner

theorem Spells.assigned {text : String} {kinds : List TokenKind}
    (spelled : Spells text.toList kinds []) :
    Spells ("v = " ++ text).toList (.identifier "v" :: .assign :: kinds) [] := by
  have joined : ("v = " ++ text).toList = ['v'] ++ ' ' :: (['='] ++ ' ' :: text.toList) := by simp
  have word (rest : List Char) : Spells ['v'] [.identifier "v"] (' ' :: rest) :=
    @IsWord.spells _ ['v'] ⟨'v', [], rfl, rfl, rfl, nofun, rfl⟩
      (separates_mark (by decide) rest).endsWord
  rw [joined]
  exact .append (word _) (.blank (.append (spells_assign (by decide)) spelled.blank))

/-- A source whose tokens are known, as the cursor before them. -/
theorem Spells.scans {source : String} {kinds : List TokenKind}
    (spelled : Spells source.toList kinds []) :
    ∃ (read : List Token) (last : Scanner), Scans (start source) read last ∧ last.rest = [] ∧
      (last.cursor read).Shows kinds (last.cursor []) := by
  obtain ⟨read, last, scans, ended, kinds⟩ := spelled (start source) (List.append_nil _).symm
  refine ⟨read, last, scans, ended, read, ?_, kinds⟩
  rw [cursor, cursor, List.append_nil]

theorem Spells.tokenize {source : String} {kinds : List TokenKind}
    (spelled : Spells source.toList kinds []) :
    ∃ (read : List Token) (last : Scanner),
      ChartScript.tokenize source = .ok (read ++ [last.token .endOfInput []]) ∧
      (last.cursor read).Shows kinds (last.cursor []) := by
  obtain ⟨read, last, scans, ended, shows⟩ := spelled.scans
  exact ⟨read, last, scans.tokens_ok (tokens_of_end ended), shows⟩

end Lexer

/-- An expression that can be displayed, in a parsed source: from the assignment of its text the
same expression is parsed, up to places and a one-to-one renumbering of its sites. -/
theorem parse_display {source : String} {program : Program} (parsed : parse source = .ok program)
    {expr : Expr} (within : expr ∈ program.parts)
    (printable : ∀ part ∈ expr.parts, part.IsPrintable) :
    ∃ again value span, parse ("v = " ++ expr.display) = .ok again ∧ again.declaration = none ∧
      again.statements = [.assign "v" value span] ∧
      ∃ renumber : Nat → Nat, Set.InjOn renumber {site | site ∈ expr.sites} ∧
        value.relabel id (fun _ => .nowhere) = expr.relabel renumber fun _ => .nowhere := by
  have shown : expr.Shown := fun part member =>
    ⟨parse_legible parsed within part member, printable part member⟩
  have spelled : Lexer.Spells expr.display.toList expr.kinds [] :=
    shown.spelled [] nofun fun _ => nofun
  obtain ⟨read, last, tokens, shows⟩ := spelled.assigned.tokenize
  obtain ⟨value, span, site, shape, nodup, derived⟩ :=
    Cursor.derives_assignment shown.isRead rfl shows rfl rfl
  obtain ⟨again, parsedAgain, declaration, statements, _⟩ := parse_of_derives tokens rfl derived
  exact ⟨again, value, span, parsedAgain, declaration, statements,
    Expr.exists_renumbering shape (sites_nodup_of_parse parsed within) nodup⟩

theorem parse_display_sum :
    ∃ program expr again value span,
      parse "plot(ta.sma(close, length=5)[1] + (x > y ? -2.5 : \"a\\n\"))" = .ok program ∧
      expr ∈ program.parts ∧ (∀ part ∈ expr.parts, part.IsPrintable) ∧
      expr.display = "(ta.sma(close, length=5)[1] + ((x > y) ? (-2.5) : \"a\\n\"))" ∧
      expr.sites = [2, 1] ∧ parse ("v = " ++ expr.display) = .ok again ∧
      again.declaration = none ∧ again.statements = [.assign "v" value span] ∧
      ∃ renumber : Nat → Nat, Set.InjOn renumber {site | site ∈ expr.sites} ∧
        value.relabel id (fun _ => .nowhere) = expr.relabel renumber fun _ => .nowhere := by
  have runs : (parse "plot(ta.sma(close, length=5)[1] + (x > y ? -2.5 : \"a\\n\"))").toOption.any
      fun program => program.parts[1]?.any fun expr =>
        expr.display = "(ta.sma(close, length=5)[1] + ((x > y) ? (-2.5) : \"a\\n\"))" ∧
        expr.sites = [2, 1] ∧ expr.parts.all fun part => part.IsPrintable := by
    decide +kernel
  obtain ⟨program, parsed, found⟩ := of_toOption_any runs
  obtain ⟨expr, found, known⟩ := (Option.any_eq_true ..).mp found
  obtain ⟨display, sites, printable⟩ := of_decide_eq_true known
  have printable (part : Expr) (member : part ∈ expr.parts) : part.IsPrintable :=
    of_decide_eq_true (List.all_eq_true.mp printable part member)
  have within := List.mem_of_getElem? found
  obtain ⟨again, value, span, same⟩ := parse_display parsed within printable
  exact ⟨program, expr, again, value, span, parsed, within, printable, display, sites, same⟩

end ChartScript
