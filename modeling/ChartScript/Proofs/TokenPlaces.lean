import ChartScript.Proofs.Places

/-!
# Where tokens stand

The tokens of a text and the gaps before them are the text: `Covers` says so piece by piece, and
each step of the scanner adds a piece. In a gap stand only blanks, comments, and line breaks that
brackets hide.
-/

set_option autoImplicit false

namespace ChartScript

open Lexer (isBlank versionMark depthAfter depthAfterAll)

def byteSize (characters : List Char) : Nat :=
  (String.ofList characters).utf8ByteSize

theorem byteSize_append (first second : List Char) :
    byteSize (first ++ second) = byteSize first + byteSize second := by
  simp [byteSize, String.ofList_append, String.utf8ByteSize_append]

/-- Only blanks stand before on the line. -/
def StartsLine (before : List Char) : Prop :=
  ∀ character ∈ before.reverse.takeWhile (· ≠ '\n'), isBlank character = true

/-- What can be left out between tokens: the second text, where `depth` brackets are open, between
the texts `before` and `after`. A comment goes up to the end of its line. -/
inductive Gap (depth : Nat) (after : List Char) : List Char → List Char → Prop
  | none (before : List Char) : Gap depth after before []
  | blank {before gap : List Char} {first : Char} (blank : isBlank first = true)
      (rest : Gap depth after (before ++ [first]) gap) : Gap depth after before (first :: gap)
  | lineBreak {before gap : List Char} (inside : 0 < depth)
      (rest : Gap depth after (before ++ ['\n']) gap) : Gap depth after before ('\n' :: gap)
  | comment {before gap comment : List Char} (opened : ['/', '/'] <+: comment)
      (noBreak : '\n' ∉ comment) (lineEnd : ∀ character ∈ (gap ++ after).head?, character = '\n')
      (ordinary : ¬(versionMark <+: comment ∧ StartsLine before))
      (rest : Gap depth after (before ++ comment) gap) :
      Gap depth after before (comment ++ gap)

structure Token.StandsBehind (token : Token) (before : List Char) : Prop where
  start : token.span.start = byteSize before
  stop : token.span.stop = byteSize (before ++ token.text.toList)
  line : token.span.line = 1 + before.count '\n'
  column : token.span.column = 1 + (before.reverse.takeWhile (· ≠ '\n')).length

/-- A token is a line break outside of brackets, or its text has no line break. -/
def Token.Breaks (token : Token) (depth : Nat) : Prop :=
  token.kind = .newline ∧ token.text = "\n" ∧ depth = 0 ∨
    token.kind ≠ .newline ∧ '\n' ∉ token.text.toList

/-- A text, behind another one and where a number of brackets is open, is that of the tokens with
gaps before them. -/
inductive Covers : List Char → Nat → List Char → List Token → Prop
  | last {before gap : List Char} {depth : Nat} {token : Token} (skipped : Gap depth [] before gap)
      (ended : token.kind = .endOfInput) (empty : token.text = "")
      (stands : token.StandsBehind (before ++ gap)) : Covers before depth gap [token]
  | cons {before gap rest : List Char} {depth : Nat} {token : Token} {tokens : List Token}
      (skipped : Gap depth (token.text.toList ++ rest) before gap)
      (unended : token.kind ≠ .endOfInput) (nonempty : token.text ≠ "")
      (stands : token.StandsBehind (before ++ gap)) (breaks : token.Breaks depth)
      (others : Covers (before ++ gap ++ token.text.toList) (depthAfter depth token.kind) rest
        tokens) :
      Covers before depth (gap ++ (token.text.toList ++ rest)) (token :: tokens)

theorem StartsLine.of_append {before text : List Char} (noBreak : '\n' ∉ text)
    (starts : StartsLine (before ++ text)) :
    (∀ character ∈ text, isBlank character = true) ∧ StartsLine before := by
  have passes := ne_newline_of_noBreak (List.mem_reverse.not.mpr noBreak)
  rw [StartsLine, List.reverse_append, List.takeWhile_append_of_pos passes] at starts
  obtain ⟨blanks, starts⟩ := List.forall_mem_append.mp starts
  exact ⟨fun character member => blanks character (List.mem_reverse.mpr member), starts⟩

/-- What can be left out before a text that is covered belongs to its first gap. -/
theorem Covers.skip {before piece rest : List Char} {depth : Nat} {tokens : List Token}
    (covers : Covers (before ++ piece) depth rest tokens)
    (extend : ∀ gap after, gap ++ after = rest → Gap depth after (before ++ piece) gap →
      Gap depth after before (piece ++ gap)) :
    Covers before depth (piece ++ rest) tokens := by
  cases covers with
  | last skipped ended empty stands =>
    rw [List.append_assoc before piece] at stands
    exact .last (extend _ _ (List.append_nil _) skipped) ended empty stands
  | cons skipped unended nonempty stands breaks others =>
    rw [List.append_assoc before piece] at stands others
    rw [← List.append_assoc piece]
    exact .cons (extend _ _ rfl skipped) unended nonempty stands breaks others

namespace Lexer.Scanner

variable {scanner final : Scanner} {before : List Char} {read : List Token}

/-- The scanner stands behind a text, and knows if only blanks are before it on its line. At a line
break this does not matter. -/
structure StandsBehind (scanner : Scanner) (before : List Char) : Prop where
  place : scanner.place = Place.origin.afterAll before
  atLineStart : ∀ character ∈ scanner.rest.head?, character ≠ '\n' → StartsLine before →
    scanner.atLineStart = true

theorem StandsBehind.token (stands : scanner.StandsBehind before) (kind : TokenKind)
    (characters : List Char) : (scanner.token kind characters).StandsBehind before where
  start := by
    show scanner.place.offset = _
    rw [stands.place, Place.offset_afterAll]
    exact Nat.zero_add _
  stop := by
    show (scanner.place.afterAll characters).offset = _
    rw [stands.place, Place.offset_afterAll, Place.offset_afterAll, Lexer.Scanner.token,
      String.toList_ofList, byteSize_append]
    exact congrArg (· + _) (Nat.zero_add _)
  line := by
    show scanner.place.line = _
    rw [stands.place, Place.line_afterAll]
    rfl
  column := by
    show scanner.place.column = _
    rw [stands.place, Place.column_origin]

/-- A token with a text before it that is covered. -/
theorem StandsBehind.covers (stands : scanner.StandsBehind before) (kind : TokenKind)
    (first : Char) (others : List Char) {rest : List Char} {tokens : List Token}
    (unended : kind ≠ .endOfInput)
    (breaks : (scanner.token kind (first :: others)).Breaks scanner.depth)
    (covers : Covers (before ++ first :: others) (depthAfter scanner.depth kind) rest tokens) :
    Covers before scanner.depth (first :: others ++ rest)
      (scanner.token kind (first :: others) :: tokens) := by
  have text : (scanner.token kind (first :: others)).text.toList = first :: others :=
    String.toList_ofList
  have nonempty : (scanner.token kind (first :: others)).text ≠ "" := by
    intro empty
    rw [empty] at text
    cases text
  have here : (scanner.token kind (first :: others)).StandsBehind (before ++ []) := by
    rw [List.append_nil]
    exact stands.token kind _
  have whole := @Covers.cons before [] rest _ _ _ (.none before) unended nonempty here breaks
    (by rw [List.append_nil, text]; exact covers)
  rwa [text] at whole

theorem head?_dropWhile_newline (characters : List Char) :
    ∀ character ∈ (characters.dropWhile (· ≠ '\n')).head?, character = '\n' := by
  intro character member
  have refused := List.head?_dropWhile_not (· ≠ '\n') characters
  rw [Option.mem_def.mp member] at refused
  simpa using refused

theorem StandsBehind.place_skip (stands : scanner.StandsBehind before)
    (characters rest : List Char) :
    (scanner.skip characters rest).place = Place.origin.afterAll (before ++ characters) := by
  show scanner.place.afterAll characters = _
  rw [stands.place]
  exact List.foldl_append.symm

/-! ## Steps -/

theorem StandsBehind.afterBlank {first : Char} {rest : List Char}
    (stands : scanner.StandsBehind before) (ahead : scanner.rest = first :: rest)
    (notBreak : first ≠ '\n') : (scanner.skip [first] rest).StandsBehind (before ++ [first]) where
  place := stands.place_skip [first] rest
  atLineStart := by
    intro _ _ _ starts
    have noBreak : '\n' ∉ [first] := fun member => notBreak (List.mem_singleton.mp member).symm
    exact stands.atLineStart first (by rw [ahead]; rfl) notBreak (starts.of_append noBreak).2

theorem StandsBehind.afterNewline (stands : scanner.StandsBehind before) (rest : List Char) :
    (scanner.afterNewline rest).StandsBehind (before ++ ['\n']) where
  place := stands.place_skip ['\n'] rest
  atLineStart := fun _ _ _ _ => rfl

/-- Behind a comment the line ends. -/
theorem StandsBehind.afterComment (stands : scanner.StandsBehind before) (rest : List Char) :
    (scanner.afterComment rest).StandsBehind (before ++ commentText rest) where
  place := stands.place_skip (commentText rest) _
  atLineStart := fun character member notBreak _ =>
    absurd (head?_dropWhile_newline rest character member) notBreak

theorem StandsBehind.afterLexeme {kind : TokenKind} {first : Char} {rest : List Char}
    {further : Nat} (stands : scanner.StandsBehind before) (notBlank : isBlank first = false)
    (noBreak : '\n' ∉ first :: rest.take further) :
    (scanner.afterLexeme kind first rest further).StandsBehind
      (before ++ first :: rest.take further) where
  place := stands.place_skip (first :: rest.take further) (rest.drop further)
  atLineStart := by
    intro _ _ _ starts
    have blank := (starts.of_append noBreak).1 first (.head _)
    rw [notBlank] at blank
    cases blank

theorem commentText_noBreak (rest : List Char) : '\n' ∉ commentText rest := by
  rintro (_ | ⟨_, member⟩)
  simpa using List.mem_takeWhile_imp member

theorem commentText_opened {rest : List Char} (opened : rest.head? = some '/') :
    ['/', '/'] <+: commentText rest := by
  obtain ⟨others, rfl⟩ := List.head?_eq_some_iff.mp opened
  exact ⟨others.takeWhile (· ≠ '\n'), by simp [commentText]⟩

/-- The tokens that the scanner reads up to the end of a text cover it. -/
theorem Scans.covers (scans : Scans scanner read final) (ended : final.rest = [])
    (stands : scanner.StandsBehind before) :
    Covers before scanner.depth scanner.rest (read ++ [final.token .endOfInput []]) := by
  induction scans generalizing before with
  | done =>
    rw [ended]
    have here := stands.token .endOfInput []
    rw [← List.append_nil before] at here
    exact .last (.none before) rfl rfl here
  | @step scanner _ _ _ _ first _ ih =>
    cases first with
    | @blank first rest ahead blank =>
      have notBreak : first ≠ '\n' := by
        rintro rfl
        cases blank
      rw [ahead]
      exact (ih ended (stands.afterBlank ahead notBreak)).skip fun _ _ _ gap => .blank blank gap
    | @hiddenBreak rest ahead inside =>
      rw [ahead]
      exact (ih ended (stands.afterNewline rest)).skip fun _ _ _ gap => .lineBreak inside gap
    | @newline rest ahead outside =>
      rw [ahead]
      have unended : TokenKind.newline ≠ .endOfInput := by
        intro same
        cases same
      have breaks : (scanner.token .newline ['\n']).Breaks scanner.depth :=
        .inl ⟨rfl, rfl, outside⟩
      exact stands.covers .newline '\n' [] unended breaks (ih ended (stands.afterNewline rest))
    | @comment rest ahead opened ordinary =>
      rw [ahead, ← commentText_append_rest]
      refine (ih ended (stands.afterComment rest)).skip fun gap after joined skipped => ?_
      refine .comment (commentText_opened opened) (commentText_noBreak rest) ?_ ?_ skipped
      · rw [joined]
        exact head?_dropWhile_newline rest
      · rintro ⟨states, starts⟩
        have atLineStart := stands.atLineStart '/' (by rw [ahead]; rfl) (by decide) starts
        rw [statesVersion, atLineStart, List.isPrefixOf_iff_prefix.mpr states] at ordinary
        cases ordinary
    | @version rest ahead opened special =>
      rw [ahead, ← commentText_append_rest]
      have unended (text : String) : TokenKind.versionComment text ≠ .endOfInput := by
        intro same
        cases same
      have notNewline (text : String) : TokenKind.versionComment text ≠ .newline := by
        intro same
        cases same
      refine stands.covers (.versionComment (String.ofList (commentText rest))) '/' _ (unended _)
        (.inr ⟨notNewline _, ?_⟩) (ih ended (stands.afterComment rest))
      rw [Lexer.Scanner.token, String.toList_ofList]
      exact commentText_noBreak rest
    | @lexeme first rest kind further ahead notBlank notBreak notComment found =>
      have noBreak : '\n' ∉ first :: rest.take further := by
        rintro (_ | ⟨_, member⟩)
        · exact notBreak rfl
        · exact lexeme_noBreak found member
      have breaks : (scanner.token kind (first :: rest.take further)).Breaks scanner.depth := by
        refine .inr ⟨lexeme_ne_newline found, ?_⟩
        rw [Lexer.Scanner.token, String.toList_ofList]
        exact noBreak
      have whole := stands.covers kind first (rest.take further) (lexeme_ne_endOfInput found)
        breaks (ih ended (stands.afterLexeme notBlank noBreak))
      have joined : first :: rest.take further ++ rest.drop further = first :: rest :=
        congrArg (first :: ·) (List.take_append_drop further rest)
      rw [ahead, ← joined]
      exact whole

end Lexer.Scanner

/-! ## Covered texts -/

theorem byteSize_cons (first : Char) (others : List Char) :
    byteSize (first :: others) = first.utf8Size + byteSize others := by
  rw [byteSize, String.ofList_cons, String.utf8ByteSize_append, String.utf8ByteSize_singleton]
  rfl

theorem byteSize_le_append (first second : List Char) :
    byteSize first ≤ byteSize (first ++ second) := by
  rw [byteSize_append]
  exact Nat.le_add_right _ _

theorem byteSize_lt_append (first : List Char) (character : Char) (others : List Char) :
    byteSize first < byteSize (first ++ character :: others) := by
  rw [byteSize_append, byteSize_cons]
  exact Nat.lt_add_of_pos_right (Nat.add_pos_left character.utf8Size_pos _)

/-- A character of two joined texts is in the first one, or in the second one. -/
theorem mem_append_cases {first second before after : List Char} {character : Char}
    (joined : first ++ second = before ++ character :: after) :
    (∃ rest, first = before ++ character :: rest) ∨
      ∃ rest, before = first ++ rest ∧ second = rest ++ character :: after := by
  rcases List.append_eq_append_iff.mp joined with ⟨rest, split, tail⟩ | ⟨rest, split, tail⟩
  · exact .inr ⟨rest, split, tail⟩
  · rcases List.cons_eq_append_iff.mp tail with ⟨rfl, same⟩ | ⟨others, rfl, _⟩
    · exact .inr ⟨[], by rw [split, List.append_nil, List.append_nil], same⟩
    · exact .inl ⟨others, split⟩

theorem Gap.inside {depth : Nat} {after before gap : List Char}
    (skipped : Gap depth after before gap) (member : '\n' ∈ gap) : 0 < depth := by
  induction skipped with
  | none => cases member
  | blank blank _ ih =>
    rcases List.mem_cons.mp member with rfl | there
    · cases blank
    · exact ih there
  | lineBreak inside => exact inside
  | comment _ noBreak _ _ _ ih => exact ih ((List.mem_append.mp member).resolve_left noBreak)

theorem Token.StandsBehind.start_lt_stop {token : Token} {before : List Char}
    (stands : token.StandsBehind before) (nonempty : token.text ≠ "") :
    token.span.start < token.span.stop := by
  obtain ⟨character, others, text⟩ :=
    List.exists_cons_of_ne_nil fun none => nonempty (String.toList_eq_nil_iff.mp none)
  rw [stands.start, stands.stop, text]
  exact byteSize_lt_append _ _ _

namespace Covers

variable {before rest : List Char} {depth : Nat} {tokens : List Token}

theorem ended (covers : Covers before depth rest tokens) :
    ∃ others last, tokens = others ++ [last] ∧ last.kind = .endOfInput ∧ last.text = "" ∧
      last.span.start = byteSize (before ++ rest) ∧ last.span.stop = byteSize (before ++ rest) ∧
      ∀ token ∈ others, token.kind ≠ .endOfInput := by
  induction covers with
  | @last before gap depth token _ ended empty stands =>
    have stop := stands.stop
    rw [empty] at stop
    exact ⟨[], token, rfl, ended, empty, stands.start, stop.trans (by simp), nofun⟩
  | @cons before gap rest depth token tokens _ unended _ _ _ _ ih =>
    obtain ⟨others, last, rfl, ended, empty, start, stop, unendedOthers⟩ := ih
    have joined : before ++ (gap ++ (token.text.toList ++ rest)) =
        before ++ gap ++ token.text.toList ++ rest := by simp only [List.append_assoc]
    rw [joined]
    exact ⟨token :: others, last, rfl, ended, empty, start, stop,
      List.forall_mem_cons.mpr ⟨unended, unendedOthers⟩⟩

theorem texts (covers : Covers before depth rest tokens) : ∀ token ∈ tokens,
    ∃ front after, rest = front ++ (token.text.toList ++ after) ∧
      token.StandsBehind (before ++ front) := by
  induction covers with
  | @last before gap depth token _ _ empty stands =>
    refine List.forall_mem_singleton.mpr ⟨gap, [], ?_, stands⟩
    rw [empty]
    exact (List.append_nil gap).symm
  | @cons before gap rest depth token tokens _ _ _ stands _ _ ih =>
    refine List.forall_mem_cons.mpr ⟨⟨gap, rest, rfl, stands⟩, fun other member => ?_⟩
    obtain ⟨front, after, rfl, standsOther⟩ := ih other member
    refine ⟨gap ++ token.text.toList ++ front, after, by simp, ?_⟩
    simpa using standsOther

theorem start_ge (covers : Covers before depth rest tokens) :
    ∀ token ∈ tokens, byteSize before ≤ token.span.start := by
  intro token member
  obtain ⟨front, _, _, stands⟩ := covers.texts token member
  rw [stands.start, byteSize_append]
  exact Nat.le_add_right _ _

theorem ordered (covers : Covers before depth rest tokens) :
    tokens.Pairwise fun first second =>
      first.span.start < first.span.stop ∧ first.span.stop ≤ second.span.start := by
  induction covers with
  | last => exact List.pairwise_singleton _ _
  | cons _ _ nonempty stands _ others ih =>
    refine List.pairwise_cons.mpr ⟨fun other member => ?_, ih⟩
    exact ⟨stands.start_lt_stop nonempty, stands.stop ▸ others.start_ge other member⟩

theorem breaks (covers : Covers before depth rest tokens) :
    ∀ token ∈ tokens, token.kind = .newline → token.text = "\n" := by
  induction covers with
  | last _ ended =>
    refine List.forall_mem_singleton.mpr fun isBreak => ?_
    rw [ended] at isBreak
    cases isBreak
  | cons _ _ _ _ breaks _ ih =>
    refine List.forall_mem_cons.mpr ⟨fun isBreak => ?_, ih⟩
    rcases breaks with ⟨_, text, _⟩ | ⟨notBreak, _⟩
    · exact text
    · exact absurd isBreak notBreak

/-- Before each token is a gap, behind the token before it. -/
theorem gaps (covers : Covers before depth rest tokens) {front back : List Token} {next : Token}
    (split : tokens = front ++ next :: back) :
    ∃ covered gap after, rest = covered ++ (gap ++ after) ∧
      byteSize (before ++ covered) = front.getLast?.elim (byteSize before) (·.span.stop) ∧
      byteSize (before ++ covered ++ gap) = next.span.start ∧
      Gap (depthAfterAll depth front) after (before ++ covered) gap := by
  induction covers generalizing front with
  | @last before gap depth token skipped _ _ stands =>
    obtain ⟨rfl, rfl, rfl⟩ : front = [] ∧ next = token ∧ back = [] := by
      simpa [List.singleton_eq_append_iff] using split
    refine ⟨[], gap, [], (List.append_nil gap).symm, ?_, ?_, ?_⟩
    · rw [List.append_nil]
      rfl
    · rw [List.append_nil, stands.start]
    · rw [List.append_nil]
      exact skipped
  | @cons before gap rest depth token tokens skipped _ _ stands _ _ ih =>
    cases front with
    | nil =>
      cases split
      refine ⟨[], gap, _, rfl, ?_, ?_, ?_⟩
      · rw [List.append_nil]
        rfl
      · rw [List.append_nil, stands.start]
      · rw [List.append_nil]
        exact skipped
    | cons first front =>
      cases split
      obtain ⟨covered, space, after, rfl, stop, start, skipped⟩ := ih rfl
      have joined : before ++ (gap ++ token.text.toList ++ covered) =
          before ++ gap ++ token.text.toList ++ covered := by simp only [List.append_assoc]
      refine ⟨gap ++ token.text.toList ++ covered, space, after,
        by simp only [List.append_assoc], ?_, joined ▸ start, joined ▸ skipped⟩
      rw [joined, stop, ← stands.stop, List.getLast?_cons]
      cases front.getLast? <;> rfl

end Covers

def Token.isBreakAt (offset : Nat) (token : Token) : Bool :=
  (token.kind matches .newline) && token.span.start = offset

theorem Token.isBreakAt_of_ne {token : Token} {offset : Nat}
    (elsewhere : token.span.start ≠ offset) : ¬token.isBreakAt offset = true := by
  intro here
  exact elsewhere (of_decide_eq_true (Bool.and_eq_true_iff.mp here).2)

theorem takeWhile_of_stop_gt {offset : Nat} {token : Token} (tokens : List Token)
    (later : offset < token.span.stop) :
    (token :: tokens).takeWhile (·.span.stop ≤ offset) = [] :=
  List.takeWhile_cons_of_neg (by simpa using later)

section Breaks

variable {depth offset : Nat} {token : Token} {tokens : List Token}

theorem countP_isBreakAt_hidden (inside : 0 < depth) (before : offset < token.span.start)
    (stop : token.span.start ≤ token.span.stop)
    (others : ∀ other ∈ tokens, token.span.stop ≤ other.span.start) :
    (token :: tokens).countP (·.isBreakAt offset) =
      if depthAfterAll depth ((token :: tokens).takeWhile (·.span.stop ≤ offset)) = 0 then 1
      else 0 := by
  have unclosed : depthAfterAll depth [] ≠ 0 := Nat.ne_of_gt inside
  have notYet := Nat.lt_of_lt_of_le before stop
  rw [takeWhile_of_stop_gt tokens notYet, if_neg unclosed, List.countP_eq_zero]
  refine List.forall_mem_cons.mpr ⟨Token.isBreakAt_of_ne (Nat.ne_of_gt before), ?_⟩
  intro other member
  exact Token.isBreakAt_of_ne (Nat.ne_of_gt (Nat.lt_of_lt_of_le notYet (others other member)))

theorem countP_isBreakAt_token (isBreak : token.kind = .newline)
    (nonempty : token.span.start < token.span.stop)
    (others : ∀ other ∈ tokens, token.span.stop ≤ other.span.start) :
    (token :: tokens).countP (·.isBreakAt token.span.start) =
      if depthAfterAll 0 ((token :: tokens).takeWhile (·.span.stop ≤ token.span.start)) = 0 then 1
      else 0 := by
  have here : token.isBreakAt token.span.start = true := by simp [Token.isBreakAt, isBreak]
  have elsewhere : ∀ other ∈ tokens, ¬other.isBreakAt token.span.start = true := by
    intro other member
    exact Token.isBreakAt_of_ne (Nat.ne_of_gt (Nat.lt_of_lt_of_le nonempty (others other member)))
  rw [List.countP_cons_of_pos here, takeWhile_of_stop_gt tokens nonempty,
    List.countP_eq_zero.mpr elsewhere]
  rfl

theorem countP_isBreakAt_behind (nonempty : token.span.start < token.span.stop)
    (behind : token.span.stop ≤ offset) :
    (token :: tokens).countP (·.isBreakAt offset) = tokens.countP (·.isBreakAt offset) :=
  List.countP_cons_of_neg <|
    Token.isBreakAt_of_ne (Nat.ne_of_lt (Nat.lt_of_lt_of_le nonempty behind))

end Breaks

/-- Each line break is a token where no bracket is open, and none in brackets. -/
theorem Covers.newlines {before rest : List Char} {depth : Nat} {tokens : List Token}
    (covers : Covers before depth rest tokens) {front after : List Char}
    (split : rest = front ++ '\n' :: after) :
    tokens.countP (·.isBreakAt (byteSize (before ++ front))) =
      if depthAfterAll depth
        (tokens.takeWhile (·.span.stop ≤ byteSize (before ++ front))) = 0 then 1 else 0 := by
  induction covers generalizing front with
  | @last before gap depth token skipped ended empty stands =>
    have inside := skipped.inside (split ▸ List.mem_append_cons_self)
    have later : byteSize (before ++ front) < token.span.start := by
      rw [stands.start, split, ← List.append_assoc]
      exact byteSize_lt_append _ _ _
    refine countP_isBreakAt_hidden inside later ?_ nofun
    rw [stands.start, stands.stop]
    exact byteSize_le_append _ _
  | @cons before gap rest depth token tokens skipped unended nonempty stands breaks others ih =>
    have nonempty := stands.start_lt_stop nonempty
    have ordered : ∀ other ∈ tokens, token.span.stop ≤ other.span.start := fun other member =>
      stands.stop ▸ others.start_ge other member
    -- The line break is in the gap, in the text of the token, or behind it.
    rcases mem_append_cases split with ⟨hidden, rfl⟩ | ⟨further, rfl, tail⟩
    · have inside := skipped.inside List.mem_append_cons_self
      have later : byteSize (before ++ front) < token.span.start := by
        rw [stands.start, ← List.append_assoc]
        exact byteSize_lt_append _ _ _
      exact countP_isBreakAt_hidden inside later (Nat.le_of_lt nonempty) ordered
    rcases mem_append_cases tail with ⟨hidden, text⟩ | ⟨below, rfl, behind⟩
    · rcases breaks with ⟨isBreak, newline, rfl⟩ | ⟨_, noBreak⟩
      · have alone : further = [] := by
          rw [newline] at text
          rcases further with _ | ⟨_, others⟩
          · rfl
          · simp at text
        have start : byteSize (before ++ (gap ++ further)) = token.span.start := by
          rw [alone, List.append_nil, stands.start]
        rw [start]
        exact countP_isBreakAt_token isBreak nonempty ordered
      · exact absurd (text ▸ List.mem_append_cons_self) noBreak
    · have joined : before ++ (gap ++ (token.text.toList ++ below)) =
          before ++ gap ++ token.text.toList ++ below := by simp only [List.append_assoc]
      have stop : token.span.stop ≤ byteSize (before ++ gap ++ token.text.toList ++ below) :=
        stands.stop ▸ byteSize_le_append _ below
      rw [joined, countP_isBreakAt_behind nonempty stop,
        List.takeWhile_cons_of_pos (by simpa using stop)]
      exact ih behind

/-- Where the tokens of a source stand. -/
structure Locates (source : String) (tokens : List Token) : Prop where
  /-- The last token is the end of input behind all text, and no other one is. -/
  ended : ∃ others last, tokens = others ++ [last] ∧ last.kind = .endOfInput ∧ last.text = "" ∧
    last.span.start = source.utf8ByteSize ∧ last.span.stop = source.utf8ByteSize ∧
    ∀ token ∈ others, token.kind ≠ .endOfInput
  /-- The text of a token stands in the source where its span says. -/
  texts : ∀ token ∈ tokens, ∃ before after,
    source.toList = before ++ (token.text.toList ++ after) ∧ token.StandsBehind before
  /-- Spans that have others behind them are not empty and end before these. -/
  ordered : tokens.Pairwise fun first second =>
    first.span.start < first.span.stop ∧ first.span.stop ≤ second.span.start
  /-- What stands before a token, behind the one before it, is a gap. -/
  gaps : ∀ front next back, tokens = front ++ next :: back → ∃ before gap after,
    source.toList = before ++ (gap ++ after) ∧
    byteSize before = front.getLast?.elim 0 (·.span.stop) ∧
    byteSize (before ++ gap) = next.span.start ∧ Gap (depthAfterAll 0 front) after before gap
  /-- A line break is one token if the tokens before it leave no bracket open, and else none. -/
  newlines : ∀ before after, source.toList = before ++ '\n' :: after →
    tokens.countP (·.isBreakAt (byteSize before)) =
      if depthAfterAll 0 (tokens.takeWhile (·.span.stop ≤ byteSize before)) = 0 then 1 else 0
  /-- No other text is a token of that kind. -/
  breaks : ∀ token ∈ tokens, token.kind = .newline → token.text = "\n"

theorem tokenize_locates {source : String} {tokens : List Token}
    (scanned : tokenize source = .ok tokens) : Locates source tokens := by
  obtain ⟨read, final, scans, ended, rfl⟩ := Lexer.Scanner.of_tokens_ok scanned
  have stands : (Lexer.Scanner.mk source.toList .origin 0 true).StandsBehind [] :=
    ⟨rfl, fun _ _ _ _ => rfl⟩
  have covers := scans.covers ended stands
  have size : byteSize source.toList = source.utf8ByteSize := by
    rw [byteSize, String.ofList_toList]
  exact {
    ended := by
      obtain ⟨others, last, split, ended, empty, start, stop, unended⟩ := covers.ended
      exact ⟨others, last, split, ended, empty, start.trans size, stop.trans size, unended⟩
    texts := covers.texts
    ordered := covers.ordered
    gaps := fun _ _ _ split => covers.gaps split
    newlines := fun _ _ split => covers.newlines split
    breaks := covers.breaks }

theorem tokenize_locates_call :
    ∃ tokens, tokenize "x = ma(close,\n  open) // mean\nplot(x)" = .ok tokens ∧
      Locates "x = ma(close,\n  open) // mean\nplot(x)" tokens := by
  have runs : (tokenize "x = ma(close,\n  open) // mean\nplot(x)").toOption.any
      (·.length = 14) := by decide +kernel
  obtain ⟨tokens, scanned, _⟩ := of_toOption_any runs
  exact ⟨tokens, scanned, tokenize_locates scanned⟩

end ChartScript
