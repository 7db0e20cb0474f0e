import ChartScript.Proofs.NumeralText
import ChartScript.Proofs.ReadTokens
import ChartScript.Proofs.SyntaxParts

/-!
# Legible syntax

What the names and numerals of a parsed program look like. A name is a path of words that are no
keywords, the names of a call's arguments differ, and no numeral has a sign.
-/

set_option autoImplicit false

namespace ChartScript

open Numeral (isNegative)

namespace Lexer

/-- The scanner takes it for one word, which is no keyword. -/
def IsWord (word : List Char) : Prop :=
  ∃ first rest, word = first :: rest ∧ first.isDigit = false ∧ startsName first = true ∧
    (∀ character ∈ rest, continuesName character = true) ∧
    TokenKind.ofWord (String.ofList word) = .identifier (String.ofList word)

/-- Words with points between them. -/
def IsPath (path : String) : Prop :=
  ∀ word ∈ path.toList.splitOn '.', IsWord word

theorem continuesName_of_startsName {character : Char} (starts : startsName character = true) :
    continuesName character = true := by
  unfold startsName at starts
  unfold continuesName
  rw [Bool.or_right_comm, starts, Bool.true_or]

theorem IsWord.continues {word : List Char} (isWord : IsWord word) :
    ∀ character ∈ word, continuesName character = true := by
  obtain ⟨first, rest, rfl, _, starts, continues, _⟩ := isWord
  exact List.forall_mem_cons.mpr ⟨continuesName_of_startsName starts, continues⟩

theorem IsWord.splitOn {word : List Char} (isWord : IsWord word) :
    word.splitOn '.' = [word] := by
  refine List.splitOn_eq_singleton fun point => ?_
  cases isWord.continues '.' point

theorem isPath_of_isWord {name : String} (isWord : IsWord name.toList) : IsPath name := by
  rw [IsPath, isWord.splitOn]
  exact List.forall_mem_singleton.mpr isWord

theorem IsPath.append {path name : String} (isPath : IsPath path) (isWord : IsWord name.toList) :
    IsPath (path ++ "." ++ name) := by
  have split : (path ++ "." ++ name).toList.splitOn '.' =
      path.toList.splitOn '.' ++ [name.toList] := by
    rw [← isWord.splitOn, ← List.splitOn_append_cons_self]
    simp
  rw [IsPath, split]
  exact List.forall_mem_append.mpr ⟨isPath, List.forall_mem_singleton.mpr isWord⟩

end Lexer

open Lexer (IsWord IsPath)

/-- A name is a word, and a numeral has no sign. -/
def TokenKind.IsLegible : TokenKind → Prop
  | .identifier name => IsWord name.toList
  | .number value => isNegative value = false
  | _ => True

namespace Lexer

theorem of_ofWord_identifier {word name : String}
    (read : TokenKind.ofWord word = .identifier name) : word = name := by
  unfold TokenKind.ofWord at read
  split at read <;> cases read
  rfl

theorem splitSign_numberText {first : Char} {rest : List Char} (digit : first.isDigit = true) :
    (Numeral.splitSign (numberText (first :: rest))).1 = false := by
  rw [numberText, List.takeWhile_cons_of_pos digit]
  simp only [List.cons_append]
  unfold Numeral.splitSign
  split
  case h_1 same =>
    cases same
    cases digit
  case h_2 | h_3 => rfl

theorem lexeme_isLegible {first : Char} {rest : List Char} {kind : TokenKind} {further : Nat}
    (read : lexeme first rest = .ok (kind, further)) : kind.IsLegible := by
  cases lexeme_cases read with
  | string | color => trivial
  | number digit known => exact Numeral.isNegative_of_readFloat? (splitSign_numberText digit) known
  | word noDigit starts =>
    generalize found : TokenKind.ofWord _ = word
    cases word with
    | identifier name =>
      have same := of_ofWord_identifier found
      subst same
      show IsWord (String.toList (String.ofList _))
      rw [String.toList_ofList]
      refine ⟨first, rest.takeWhile continuesName, rfl, noDigit, starts, ?_, found⟩
      exact fun _ member => List.mem_takeWhile_imp member
    | number value =>
      unfold TokenKind.ofWord at found
      split at found <;> cases found
    | _ => trivial
  | sign isSign => cases kind <;> trivial

theorem Scanner.Scans.legible {scanner final : Scanner} {read : List Token}
    (scans : Scans scanner read final) : ∀ token ∈ read, token.kind.IsLegible := by
  induction scans with
  | done => exact nofun
  | step first _ ih =>
    refine List.forall_mem_append.mpr ⟨?_, ih⟩
    cases first with
    | blank | hiddenBreak | comment => exact nofun
    | newline | version => exact List.forall_mem_singleton.mpr trivial
    | lexeme _ _ _ _ read => exact List.forall_mem_singleton.mpr (lexeme_isLegible read)

end Lexer

/-! ## Expressions -/

/-- The expression itself, without what is within it, looks like one that was read. -/
def Expr.IsLegible : Expr → Prop
  | .number value _ => isNegative value = false
  | .name path _ => IsPath path
  | .member object word _ => object.isName = false ∧ IsWord word.toList
  | .call passed _ => IsPath passed.function ∧
    (∀ argument ∈ passed.named, IsWord argument.name.toList) ∧
    (passed.named.map NamedArgument.name).Nodup
  | _ => True

def Expr.Legible (expr : Expr) : Prop :=
  ∀ part ∈ expr.parts, part.IsLegible

namespace Cursor

structure ArgumentList.Legible (list : ArgumentList) : Prop where
  positional : ∀ argument ∈ list.positional, argument.Legible
  named : ∀ argument ∈ list.named, argument.value.Legible
  words : ∀ argument ∈ list.named, IsWord argument.name.toList
  nodup : (list.named.map NamedArgument.name).Nodup

theorem ArgumentList.Legible.addPositional {list : ArgumentList} {value : Expr}
    (before : list.Legible) (legible : value.Legible) : (list.addPositional value).Legible where
  positional := List.forall_mem_append.mpr
    ⟨before.positional, List.forall_mem_singleton.mpr legible⟩
  named := before.named
  words := before.words
  nodup := before.nodup

theorem ArgumentList.Legible.addNamed {list : ArgumentList} {name : String} {value : Expr}
    {span : Span} (before : list.Legible) (legible : value.Legible) (isWord : IsWord name.toList)
    (new : list.named.any (·.name = name) = false) :
    (list.addNamed (.mk name value span)).Legible where
  positional := before.positional
  named := List.forall_mem_append.mpr ⟨before.named, List.forall_mem_singleton.mpr legible⟩
  words := List.forall_mem_append.mpr ⟨before.words, List.forall_mem_singleton.mpr isWord⟩
  nodup := by
    have absent : name ∉ list.named.map NamedArgument.name := by
      intro member
      obtain ⟨argument, present, same⟩ := List.mem_map.mp member
      simpa [same] using List.any_eq_false.mp new argument present
    rw [ArgumentList.addNamed, List.map_append]
    exact before.nodup.append (List.nodup_singleton _)
      (List.disjoint_singleton.mpr absent)

/-- What a production was given is legible. -/
def Production.GivenLegible : Production → Prop
  | .operators _ left _ => left.Legible
  | .suffixes operand _ => operand.Legible
  | .nameOrCall path _ _ => IsPath path
  | .callArguments function _ => IsPath function
  | .argumentList before _ => before.Legible
  | .argument before _ => before.Legible
  | _ => True

/-- What a production yields is legible. -/
def Production.Legible : Production → Prop
  | .expression value => value.Legible
  | .binary _ value => value.Legible
  | .operators _ _ value => value.Legible
  | .unary value => value.Legible
  | .primary value => value.Legible
  | .suffixes _ value => value.Legible
  | .nameOrCall _ _ value => value.Legible
  | .callArguments _ call => ∀ span, (Expr.call call span).Legible
  | .argumentList _ after => after.Legible
  | .argument _ after => after.Legible

/-- The tokens at the cursor look like tokens that were read. -/
def Legible (cursor : Cursor) : Prop :=
  ∀ token ∈ cursor.rest, token.kind.IsLegible

theorem Takes.legible {cursor next : Cursor} {token : Token} (taken : cursor.Takes token next)
    (legible : cursor.Legible) : token.kind.IsLegible ∧ next.Legible := by
  subst taken
  exact List.forall_mem_cons.mp legible

theorem Balanced.legible {start final : Cursor} (balanced : Balanced start final)
    (legible : start.Legible) : final.Legible := by
  obtain ⟨read, split, _⟩ := balanced
  rw [Legible, split] at legible
  exact (List.forall_mem_append.mp legible).2

end Cursor

theorem Token.legible_literal {token : Token} {value : Expr} (literal : token.literal? = some value)
    (legible : token.kind.IsLegible) : value.Legible := by
  obtain ⟨kind, text, span⟩ := token
  unfold Token.literal? at literal
  cases kind <;> cases literal <;> exact List.forall_mem_singleton.mpr legible

namespace Cursor

theorem Derives.legible {start final : Cursor} {production : Production}
    (derived : Derives start production final) (tokens : start.Legible)
    (given : production.GivenLegible) : production.Legible := by
  induction derived with
  | choice first marked _ second parted _ _ conditionLegible trueLegible falseLegible =>
    have atMark := (marked.legible (first.balanced.legible tokens)).2
    have atColon := (parted.legible (second.balanced.legible atMark)).2
    exact Expr.forall_parts_ternary.mpr ⟨trivial, conditionLegible tokens trivial,
      trueLegible atMark trivial, falseLegible atColon trivial⟩
  | operation _ _ known => exact known tokens trivial
  | operands first _ leftLegible known =>
    exact known (first.balanced.legible tokens) (leftLegible tokens trivial)
  | operator taken _ _ second _ rightLegible known =>
    have atOp := (taken.legible tokens).2
    exact known (second.balanced.legible atOp)
      (Expr.forall_parts_binary.mpr ⟨trivial, given, rightLegible atOp trivial⟩)
  | noOperator | noSuffix | noArgument => exact given
  | unaryOperator taken _ _ known =>
    exact Expr.forall_parts_unary.mpr ⟨trivial, known (taken.legible tokens).2 trivial⟩
  | operand _ first _ headLegible known =>
    exact known (first.balanced.legible tokens) (headLegible tokens trivial)
  | literal taken isLiteral => exact Token.legible_literal isLiteral (taken.legible tokens).1
  | named taken isName _ known =>
    obtain ⟨isWord, after⟩ := taken.legible tokens
    rw [isName] at isWord
    exact known after (Lexer.isPath_of_isWord isWord)
  | parenthesised opened _ _ _ _ known => exact known (opened.legible tokens).2 trivial
  | longerName dotted _ taken isName first _ longerLegible known =>
    obtain ⟨isWord, after⟩ := taken.legible (dotted.legible tokens).2
    rw [isName] at isWord
    have isPath : IsPath _ := given _ List.mem_cons_self
    exact known (first.balanced.legible after) (longerLegible after (isPath.append isWord))
  | member unnamed dotted _ taken isName _ _ known =>
    obtain ⟨isWord, after⟩ := taken.legible (dotted.legible tokens).2
    rw [isName] at isWord
    exact known after (Expr.forall_parts_member.mpr ⟨⟨unnamed, isWord⟩, given⟩)
  | history opened _ inner closed _ _ offsetLegible known =>
    have inside := (opened.legible tokens).2
    have after := (closed.legible (inner.balanced.legible inside)).2
    exact known after
      (Expr.forall_parts_history.mpr ⟨trivial, given, offsetLegible inside trivial⟩)
  | uncalled _ => exact List.forall_mem_singleton.mpr given
  | called _ known => exact known tokens given _
  | callArguments opened _ _ _ _ known =>
    have list : ArgumentList.Legible _ := known (opened.legible tokens).2 ⟨nofun, nofun, nofun, .nil⟩
    exact fun span => Expr.forall_parts_call.mpr
      ⟨⟨given, list.words, list.nodup⟩, list.positional, list.named⟩
  | lastArgument _ _ _ known => exact known tokens given
  | moreArguments _ first parted _ _ firstLegible known =>
    exact known (parted.legible (first.balanced.legible tokens)).2 (firstLegible tokens given)
  | namedArgument taken isName assigned _ new _ known =>
    obtain ⟨isWord, after⟩ := taken.legible tokens
    rw [isName] at isWord
    have value : Expr.Legible _ := known (assigned.legible after).2 trivial
    have before : ArgumentList.Legible _ := given
    exact before.addNamed value isWord new
  | positionalArgument _ _ known =>
    have value : Expr.Legible _ := known tokens trivial
    have before : ArgumentList.Legible _ := given
    exact before.addPositional value

/-! ## Programs -/

theorem DerivesStatement.legible {start final : Cursor} {statement : Statement}
    (derived : DerivesStatement start statement final) (tokens : start.Legible) :
    ∀ part ∈ statement.parts, part.IsLegible := by
  induction derived with
  | @ifThenElse _ _ afterCondition afterThen afterElse _ _ _ _ _ _ taken _ decided thenPart parted _ _
      thenLegible elseLegible =>
    have atIf := (taken.legible tokens).2
    have atThen := ((decided.balanced).trans (.skipBreaks afterCondition)).legible atIf
    have behindThen := (thenPart.balanced.trans (.skipBreaks afterThen)).legible atThen
    have atElse := (Balanced.skipBreaks afterElse).legible (parted.legible behindThen).2
    refine List.forall_mem_append.mpr ⟨?_, elseLegible atElse⟩
    exact List.forall_mem_append.mpr ⟨decided.legible atIf trivial, thenLegible atThen⟩
  | @ifThen _ _ afterCondition _ _ _ _ taken _ decided thenPart _ thenLegible =>
    have atIf := (taken.legible tokens).2
    have atThen := ((decided.balanced).trans (.skipBreaks afterCondition)).legible atIf
    exact List.forall_mem_append.mpr ⟨decided.legible atIf trivial, thenLegible atThen⟩
  | assign taken _ assigned _ only =>
    exact only.legible (assigned.legible (taken.legible tokens).2).2 trivial
  | expression _ _ _ only => exact only.legible tokens trivial

theorem DerivesAll.legible {start final : Cursor} {statements : List Statement}
    (derived : DerivesAll start statements final) (tokens : start.Legible) :
    ∀ part ∈ statements.flatMap Statement.parts, part.IsLegible := by
  induction derived with
  | nil _ => exact nofun
  | @cons start _ _ _ _ _ _ first ended _ others =>
    have here := (Balanced.skipBreaks start).legible tokens
    rw [List.flatMap_cons]
    refine List.forall_mem_append.mpr ⟨first.legible here, others ?_⟩
    exact (first.balanced.trans ended.balanced).legible here

theorem DerivesProgram.legible {start final : Cursor} {program : Program}
    (derived : DerivesProgram start program.declaration program.statements final)
    (tokens : start.Legible) : ∀ part ∈ program.parts, part.IsLegible := by
  obtain ⟨version, declaration, statements, siteCount⟩ := program
  have here := (Balanced.skipBreaks start).legible tokens
  cases derived with
  | declared taken isName _ called ended others =>
    obtain ⟨isWord, after⟩ := taken.legible here
    rw [isName] at isWord
    have call := called.legible after (Lexer.isPath_of_isWord isWord)
    have behind := (called.balanced.trans ended.balanced).legible after
    exact List.forall_mem_append.mpr
      ⟨(List.forall_mem_cons.mp (call .nowhere)).2, others.legible behind⟩
  | undeclared _ only => exact only.legible here

end Cursor

/-- Every expression within a parsed program is legible. -/
theorem parse_legible {source : String} {program : Program} (parsed : parse source = .ok program)
    {part : Expr} (within : part ∈ program.parts) : part.Legible := by
  obtain ⟨_, _, _, scans, _, _, derived, _⟩ := of_parse_ok parsed
  intro inner member
  exact derived.legible scans.legible inner ((Program.parts_sublist within).subset member)

end ChartScript
