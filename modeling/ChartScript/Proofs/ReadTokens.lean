import ChartScript.Proofs.ProgramGrammar
import ChartScript.Proofs.Scanning

/-!
# What a derivation reads

The tokens between the two cursors of a derivation stand in front of those behind the second one,
every bracket among them is closed by another, and no break is inside of brackets. So the scanner,
which counts brackets to find the line breaks that separate statements, is outside of all brackets
when a program ends.
-/

set_option autoImplicit false

namespace ChartScript

/-- Neither a bracket nor a break. -/
def TokenKind.IsPlain (kind : TokenKind) : Prop :=
  kind.isBreak = false ∧ ∀ depth, Lexer.depthAfter depth kind = depth

namespace TokenKind

theorem plain_binaryOp {kind : TokenKind} {op : BinaryOp × Nat}
    (isOp : kind.binaryOp? = some op) : kind.IsPlain := by
  cases kind <;> first | exact ⟨rfl, fun _ => rfl⟩ | cases isOp

theorem plain_unaryOp {kind : TokenKind} {op : UnaryOp} (isOp : kind.unaryOp? = some op) :
    kind.IsPlain := by
  cases kind <;> first | exact ⟨rfl, fun _ => rfl⟩ | cases isOp

theorem plain_isAssign {kind : TokenKind} (isSign : kind.isAssign = true) : kind.IsPlain := by
  cases kind <;> first | exact ⟨rfl, fun _ => rfl⟩ | cases isSign

theorem plain_isAssignment {kind : TokenKind} (isSign : kind.isAssignment = true) :
    kind.IsPlain := by
  cases kind <;> first | exact ⟨rfl, fun _ => rfl⟩ | cases isSign

theorem depthAfter_isBreak {kind : TokenKind} (isBreak : kind.isBreak = true) (depth : Nat) :
    Lexer.depthAfter depth kind = depth := by
  cases kind <;> first | rfl | cases isBreak

end TokenKind

theorem Token.plain_literal {token : Token} {value : Expr}
    (isLiteral : token.literal? = some value) : token.kind.IsPlain := by
  obtain ⟨kind, text, span⟩ := token
  unfold Token.literal? at isLiteral
  cases kind <;> first | exact ⟨rfl, fun _ => rfl⟩ | cases isLiteral

namespace Cursor

open Lexer (depthAfterAll depthAfterAll_append)

/-- The tokens between two cursors open as many brackets as they close, close none that was open
before, and are all on one line. -/
def Flat (start final : Cursor) : Prop :=
  ∃ read, start.rest = read ++ final.rest ∧ (∀ depth, depthAfterAll depth read = depth) ∧
    ∀ token ∈ read, token.kind.isBreak = false

namespace Flat

variable {start middle final : Cursor}

theorem refl (start : Cursor) : Flat start start :=
  ⟨[], rfl, fun _ => rfl, nofun⟩

theorem trans (first : Flat start middle) (second : Flat middle final) : Flat start final := by
  obtain ⟨read, split, flat, line⟩ := first
  obtain ⟨others, splitOthers, flatOthers, lineOthers⟩ := second
  refine ⟨read ++ others, by rw [split, splitOthers, List.append_assoc], fun depth => ?_,
    List.forall_mem_append.mpr ⟨line, lineOthers⟩⟩
  rw [depthAfterAll_append, flat, flatOthers]

theorem token {token : Token} (taken : start.Takes token final) (plain : token.kind.IsPlain) :
    Flat start final := by
  subst taken
  exact ⟨[token], rfl, plain.2, List.forall_mem_singleton.mpr plain.1⟩

theorem brackets {inside atEnd : Cursor} {opening closing : Token}
    (opened : start.Takes opening inside) (isOpening : opening.kind.isBreak = false ∧
      ∀ depth, Lexer.depthAfter depth opening.kind = depth + 1)
    (inner : Flat inside atEnd) (closed : atEnd.Takes closing final)
    (isClosing : closing.kind.isBreak = false ∧
      ∀ depth, Lexer.depthAfter depth closing.kind = depth - 1) :
    Flat start final := by
  obtain ⟨read, split, flat, line⟩ := inner
  subst opened closed
  refine ⟨opening :: (read ++ [closing]), ?_, fun depth => ?_, ?_⟩
  · simp only [split, List.cons_append, List.append_assoc, List.nil_append]
  · show depthAfterAll (Lexer.depthAfter depth opening.kind) (read ++ [closing]) = depth
    rw [isOpening.2, depthAfterAll_append, flat]
    exact isClosing.2 (depth + 1)
  · exact List.forall_mem_cons.mpr ⟨isOpening.1, List.forall_mem_append.mpr
      ⟨line, List.forall_mem_singleton.mpr isClosing.1⟩⟩

end Flat

theorem Derives.flat {start final : Cursor} {production : Production}
    (derived : Derives start production final) : Flat start final := by
  induction derived with
  | choice _ marked isMark _ parted isColon _ first second third =>
    have mark := Flat.token marked (by rw [isMark]; exact ⟨rfl, fun _ => rfl⟩)
    have colon := Flat.token parted (by rw [isColon]; exact ⟨rfl, fun _ => rfl⟩)
    exact first.trans (mark.trans (second.trans (colon.trans third)))
  | operation _ _ only => exact only
  | operands _ _ first others => exact first.trans others
  | operator taken isOp _ _ _ second others =>
    exact (Flat.token taken (TokenKind.plain_binaryOp isOp)).trans (second.trans others)
  | noOperator | noSuffix | uncalled | noArgument => exact .refl _
  | unaryOperator taken isOp _ only =>
    exact (Flat.token taken (TokenKind.plain_unaryOp isOp)).trans only
  | operand _ _ _ first others => exact first.trans others
  | literal taken isLiteral => exact .token taken (Token.plain_literal isLiteral)
  | named taken isName _ others =>
    exact (Flat.token taken (by rw [isName]; exact ⟨rfl, fun _ => rfl⟩)).trans others
  | parenthesised opened isOpening _ closed isClosing inner =>
    exact .brackets opened (by rw [isOpening]; exact ⟨rfl, fun _ => rfl⟩) inner closed
      (by rw [isClosing]; exact ⟨rfl, fun _ => rfl⟩)
  | longerName dotted isDot taken isName _ _ first others =>
    have dot := Flat.token dotted (by rw [isDot]; exact ⟨rfl, fun _ => rfl⟩)
    have name := Flat.token taken (by rw [isName]; exact ⟨rfl, fun _ => rfl⟩)
    exact dot.trans (name.trans (first.trans others))
  | member _ dotted isDot taken isName _ _ others =>
    have dot := Flat.token dotted (by rw [isDot]; exact ⟨rfl, fun _ => rfl⟩)
    have name := Flat.token taken (by rw [isName]; exact ⟨rfl, fun _ => rfl⟩)
    exact dot.trans (name.trans others)
  | history opened isOpening _ closed isClosing _ inner others =>
    have brackets := Flat.brackets opened (by rw [isOpening]; exact ⟨rfl, fun _ => rfl⟩) inner
      closed (by rw [isClosing]; exact ⟨rfl, fun _ => rfl⟩)
    exact brackets.trans others
  | called _ only => exact only
  | callArguments opened isOpening _ closed isClosing inner =>
    exact .brackets opened (by rw [isOpening]; exact ⟨rfl, fun _ => rfl⟩) inner closed
      (by rw [isClosing]; exact ⟨rfl, fun _ => rfl⟩)
  | lastArgument _ _ _ only => exact only
  | moreArguments _ _ parted isComma _ first others =>
    have comma := Flat.token parted (by rw [isComma]; exact ⟨rfl, fun _ => rfl⟩)
    exact first.trans (comma.trans others)
  | namedArgument taken isName assigned isSign _ _ only =>
    have name := Flat.token taken (by rw [isName]; exact ⟨rfl, fun _ => rfl⟩)
    exact name.trans ((Flat.token assigned (TokenKind.plain_isAssign isSign)).trans only)
  | positionalArgument _ _ only => exact only

/-- The tokens between two cursors open as many brackets as they close, close none that was open
before, and every break among them is outside of these brackets. -/
def Balanced (start final : Cursor) : Prop :=
  ∃ read, start.rest = read ++ final.rest ∧ (∀ depth, depthAfterAll depth read = depth) ∧
    ∀ front token back, read = front ++ token :: back → token.kind.isBreak = true →
      ∀ depth, depthAfterAll depth front = depth

theorem Flat.balanced {start final : Cursor} (flat : Flat start final) : Balanced start final := by
  obtain ⟨read, split, flat, line⟩ := flat
  refine ⟨read, split, flat, ?_⟩
  rintro front token back rfl isBreak
  rw [line token (List.mem_append_cons_self)] at isBreak
  cases isBreak

namespace Balanced

variable {start middle final : Cursor}

theorem refl (start : Cursor) : Balanced start start :=
  (Flat.refl start).balanced

theorem trans (first : Balanced start middle) (second : Balanced middle final) :
    Balanced start final := by
  obtain ⟨read, split, flat, outside⟩ := first
  obtain ⟨others, splitOthers, flatOthers, outsideOthers⟩ := second
  refine ⟨read ++ others, by rw [split, splitOthers, List.append_assoc], fun depth => ?_, ?_⟩
  · rw [depthAfterAll_append, flat, flatOthers]
  · intro front token back joined isBreak depth
    rcases List.append_eq_append_iff.mp joined with ⟨middle, rfl, behind⟩ | ⟨middle, rfl, behind⟩
    · rw [depthAfterAll_append, flat, outsideOthers middle token back behind isBreak]
    · rcases List.cons_eq_append_iff.mp behind with ⟨rfl, here⟩ | ⟨rest, rfl, _⟩
      · rw [List.append_nil] at flat
        exact flat depth
      · exact outside front token rest rfl isBreak depth

/-- A token that is no bracket. -/
theorem token {token : Token} (taken : start.Takes token final)
    (flat : ∀ depth, Lexer.depthAfter depth token.kind = depth) : Balanced start final := by
  subst taken
  refine ⟨[token], rfl, flat, ?_⟩
  rintro front other back alone isBreak depth
  rcases List.cons_eq_append_iff.mp alone with ⟨rfl, _⟩ | ⟨rest, rfl, none⟩
  · rfl
  · simp at none

theorem depthAfterAll_breaks {tokens : List Token}
    (breaks : ∀ token ∈ tokens, token.kind.isBreak = true) (depth : Nat) :
    depthAfterAll depth tokens = depth := by
  induction tokens with
  | nil => rfl
  | cons token rest ih =>
    obtain ⟨first, others⟩ := List.forall_mem_cons.mp breaks
    show depthAfterAll (Lexer.depthAfter depth token.kind) rest = depth
    rw [TokenKind.depthAfter_isBreak first, ih others]

theorem skipBreaks (cursor : Cursor) : Balanced cursor cursor.skipBreaks := by
  have breaks : ∀ token ∈ cursor.rest.takeWhile (·.kind.isBreak), token.kind.isBreak = true :=
    fun _ => List.mem_takeWhile_imp
  refine ⟨_, List.takeWhile_append_dropWhile.symm, depthAfterAll_breaks breaks, ?_⟩
  intro front token back split _
  rw [split] at breaks
  exact depthAfterAll_breaks (List.forall_mem_append.mp breaks).1

end Balanced

theorem Derives.balanced {start final : Cursor} {production : Production}
    (derived : Derives start production final) : Balanced start final :=
  derived.flat.balanced

theorem DerivesStatement.balanced {start final : Cursor} {statement : Statement}
    (derived : DerivesStatement start statement final) : Balanced start final := by
  induction derived with
  | @ifThenElse _ _ afterCondition afterThen afterElse _ _ _ _ _ _ taken isIf decided _ parted isElse
      _ thenPart elsePart =>
    have word := Balanced.token taken (by rw [isIf]; exact fun _ => rfl)
    have other := Balanced.token parted (by rw [isElse]; exact fun _ => rfl)
    have thenPart := (Balanced.skipBreaks afterCondition).trans thenPart
    have elsePart := (Balanced.skipBreaks afterElse).trans elsePart
    have middle := (Balanced.skipBreaks afterThen).trans other
    exact word.trans (decided.balanced.trans (thenPart.trans (middle.trans elsePart)))
  | @ifThen _ _ afterCondition _ _ _ _ taken isIf decided _ _ thenPart =>
    have word := Balanced.token taken (by rw [isIf]; exact fun _ => rfl)
    have thenPart := (Balanced.skipBreaks afterCondition).trans thenPart
    exact word.trans (decided.balanced.trans thenPart)
  | assign taken isName assigned isSign only =>
    have name := Balanced.token taken (by rw [isName]; exact fun _ => rfl)
    have sign := Balanced.token assigned (TokenKind.plain_isAssignment isSign).2
    exact name.trans (sign.trans only.balanced)
  | expression _ _ _ only => exact only.balanced

theorem Ends.balanced {cursor next : Cursor} (ended : cursor.Ends next) :
    Balanced cursor next := by
  cases ended with
  | newline taken isBreak => exact .token taken (by rw [isBreak]; exact fun _ => rfl)
  | finished _ => exact .refl _

theorem DerivesAll.balanced {start final : Cursor} {statements : List Statement}
    (derived : DerivesAll start statements final) : Balanced start final := by
  induction derived with
  | nil _ => exact .skipBreaks _
  | @cons start _ _ _ _ _ _ first ended _ others =>
    exact (Balanced.skipBreaks start).trans (first.balanced.trans (ended.balanced.trans others))

theorem DerivesProgram.balanced {start final : Cursor} {declaration : Option Declaration}
    {statements : List Statement} (derived : DerivesProgram start declaration statements final) :
    Balanced start final := by
  refine (Balanced.skipBreaks start).trans ?_
  cases derived with
  | declared taken isName _ called ended others =>
    have name := Balanced.token taken (by rw [isName]; exact fun _ => rfl)
    exact name.trans (called.balanced.trans (ended.balanced.trans others.balanced))
  | undeclared _ only => exact only.balanced

/-- The end of the input is not among the tokens, but behind them. -/
def Unended (cursor : Cursor) : Prop :=
  ∀ token ∈ cursor.rest, token.kind ≠ .endOfInput

theorem Balanced.unended {start final : Cursor} (balanced : Balanced start final)
    (unended : start.Unended) : final.Unended := by
  obtain ⟨read, split, _⟩ := balanced
  intro token member
  exact unended token (split ▸ List.mem_append_right _ member)

theorem Unended.rest_eq_nil {cursor : Cursor} (unended : cursor.Unended)
    (atEnd : cursor.kind = .endOfInput) : cursor.rest = [] := by
  obtain ⟨_ | ⟨token, rest⟩, finish, site⟩ := cursor
  · rfl
  · exact absurd atEnd (unended token List.mem_cons_self)

theorem DerivesAll.atEnd {start final : Cursor} {statements : List Statement}
    (derived : DerivesAll start statements final) : final.kind = .endOfInput := by
  induction derived with
  | nil atEnd => exact atEnd
  | cons _ _ _ _ ih => exact ih

theorem DerivesProgram.atEnd {start final : Cursor} {declaration : Option Declaration}
    {statements : List Statement} (derived : DerivesProgram start declaration statements final) :
    final.kind = .endOfInput := by
  cases derived with
  | declared _ _ _ _ _ others => exact others.atEnd
  | undeclared _ only => exact only.atEnd

theorem DerivesProgram.rest_eq_nil {start final : Cursor} {declaration : Option Declaration}
    {statements : List Statement} (derived : DerivesProgram start declaration statements final)
    (unended : start.Unended) : final.rest = [] :=
  (derived.balanced.unended unended).rest_eq_nil derived.atEnd

end Cursor

/-! ## Sources -/

namespace Lexer.Scanner

/-- The scanner at the start of a source. -/
def start (source : String) : Scanner :=
  ⟨source.toList, .origin, 0, true⟩

/-- The cursor before the tokens of a source, of which the last is where the scanner ends. -/
def cursor (final : Scanner) (read : List Token) : Cursor :=
  ⟨read, final.token .endOfInput [], 0⟩

end Lexer.Scanner

open Lexer Scanner

theorem parse_of_derives {source : String} {read : List Token} {endOfInput : Token}
    {declaration : Option Declaration} {statements : List Statement} {final : Cursor}
    (scanned : tokenize source = .ok (read ++ [endOfInput])) (ended : endOfInput.kind = .endOfInput)
    (derived : Cursor.DerivesProgram ⟨read, endOfInput, 0⟩ declaration statements final) :
    ∃ program, parse source = .ok program ∧ program.declaration = declaration ∧
      program.statements = statements ∧ program.siteCount = final.nextSite := by
  have cursor := Cursor.ofTokens_append read ended
  refine ⟨⟨(Cursor.version ⟨read, endOfInput, 0⟩).1, declaration, statements, final.nextSite⟩, ?_,
    rfl, rfl, rfl⟩
  rw [parse, scanned]
  simp only [parseTokens, cursor, derived.runs]
  rfl

theorem of_parse_ok {source : String} {program : Program} (parsed : parse source = .ok program) :
    ∃ read last final, Scans (start source) read last ∧ last.rest = [] ∧ last.depth = 0 ∧
      Cursor.DerivesProgram (last.cursor read) program.declaration program.statements final ∧
      program.siteCount = final.nextSite := by
  unfold parse at parsed
  split at parsed
  case h_1 => cases parsed
  case h_2 tokens scanned =>
    split at parsed
    case h_1 => cases parsed
    case h_2 found accepted =>
      cases parsed
      obtain ⟨read, last, scans, ended, rfl⟩ := of_tokens_ok scanned
      have cursor : Cursor.ofTokens (read ++ [last.token .endOfInput []]) = last.cursor read :=
        Cursor.ofTokens_append read rfl
      rw [parseTokens, cursor] at accepted
      obtain ⟨⟨_, final⟩, accepted, same⟩ := of_bind_ok accepted
      cases same
      have closed : (last.cursor read).Closed := rfl
      obtain ⟨derived, count⟩ := Cursor.of_program_ok closed accepted
      -- Every bracket is closed, and all tokens are read.
      obtain ⟨all, split, flat, _⟩ := derived.balanced
      rw [derived.rest_eq_nil scans.unended, List.append_nil] at split
      have split : read = all := split
      exact ⟨read, last, final, scans, ended, scans.depth.trans (split ▸ flat 0), derived, count⟩

end ChartScript
