import Fiscal.Proofs.Token.Round

set_option autoImplicit false

namespace Fiscal.Token

open Source

structure Stacked (indents : List Nat) : Prop where
  falls : indents.Pairwise (· > ·)
  bottom : indents.getLast? = some 0

def countKind (kind : TokenKind) (tokens : List Token) : Nat := tokens.countP (·.kind == kind)

def openGroups (tokens : List Token) : Groups :=
  tokens.foldl (fun groups token => groups.after token.span.start token.kind) Groups.none

theorem openGroups_concat (before : List Token) (token : Token) :
    openGroups (before ++ [token]) = (openGroups before).after token.span.start token.kind := by
  simp [openGroups]

-- How tokens, latest first, come about together with the widths of indentation and the open brackets.
-- Line ends and changes of the indentation stand where `free` holds of the open brackets.
inductive Layout (free : Groups → Prop) : List Token → List Nat → Groups → Prop where
  | start : Layout free [] [0] Groups.none
  | indent (token : Token) (earlier : List Token) (width level : Nat) (outer : List Nat)
      (groups : Groups) (kind : token.kind = .indent) (allowed : free groups) (deeper : level < width)
      (laid : Layout free earlier (level :: outer) groups) :
      Layout free (token :: earlier) (width :: level :: outer) groups
  | dedent (token : Token) (earlier : List Token) (width : Nat) (outer : List Nat)
      (groups : Groups) (kind : token.kind = .dedent) (allowed : free groups) (within : outer ≠ [])
      (laid : Layout free earlier (width :: outer) groups) : Layout free (token :: earlier) outer groups
  | newline (token : Token) (earlier : List Token) (indents : List Nat) (groups : Groups)
      (kind : token.kind = .newline) (allowed : free groups)
      (laid : Layout free earlier indents groups) : Layout free (token :: earlier) indents groups
  | read (token : Token) (earlier : List Token) (indents : List Nat) (groups : Groups)
      (kind : token.kind.isRead = true) (laid : Layout free earlier indents groups) :
      Layout free (token :: earlier) indents (groups.after token.span.start token.kind)

theorem Groups.none_of_depth {groups : Groups} (outside : groups.depth = 0) : groups = Groups.none := by
  obtain ⟨parens, brackets, braces⟩ := groups
  simp only [Groups.depth, Nat.add_eq_zero_iff, List.length_eq_zero_iff] at outside
  obtain ⟨⟨rfl, rfl⟩, rfl⟩ := outside
  rfl

theorem countKind_same (kind : TokenKind) (token : Token) (tokens : List Token)
    (same : token.kind = kind) : countKind kind (token :: tokens) = countKind kind tokens + 1 := by
  simp [countKind, same]

theorem countKind_other (kind : TokenKind) (token : Token) (tokens : List Token)
    (other : token.kind ≠ kind) : countKind kind (token :: tokens) = countKind kind tokens := by
  simp [countKind, other]

theorem countKind_reverse (kind : TokenKind) (tokens : List Token) :
    countKind kind tokens.reverse = countKind kind tokens := by
  simp [countKind]

namespace Stacked

theorem zero : Stacked [0] := ⟨by simp, rfl⟩

theorem push {width level : Nat} {outer : List Nat} (stacked : Stacked (level :: outer))
    (deeper : level < width) : Stacked (width :: level :: outer) := by
  refine ⟨List.pairwise_cons.mpr ⟨fun other member => ?_, stacked.falls⟩, ?_⟩
  · rcases List.mem_cons.mp member with rfl | later
    · exact deeper
    · exact Nat.lt_trans ((List.pairwise_cons.mp stacked.falls).1 other later) deeper
  · rw [List.getLast?_cons_cons]
    exact stacked.bottom

theorem pop {width : Nat} {outer : List Nat} (stacked : Stacked (width :: outer))
    (within : outer ≠ []) : Stacked outer := by
  refine ⟨(List.pairwise_cons.mp stacked.falls).2, ?_⟩
  obtain ⟨level, others, rfl⟩ := List.exists_cons_of_ne_nil within
  rw [← stacked.bottom, List.getLast?_cons_cons]

theorem outermost {width : Nat} {outer : List Nat} (stacked : Stacked (width :: outer))
    (positive : 0 < width) : outer ≠ [] := by
  rintro rfl
  have bottom : width = 0 := by simpa using stacked.bottom
  omega

theorem unwound {indents : List Nat} (stacked : Stacked indents) :
    (indents.dropWhile fun top => decide (0 < top)) = [0] := by
  induction indents with
  | nil => cases stacked.bottom
  | cons width outer ih =>
      by_cases positive : 0 < width
      · rw [List.dropWhile_cons, if_pos (decide_eq_true positive)]
        exact ih (stacked.pop (stacked.outermost positive))
      · have none : outer = [] := by
          refine List.eq_nil_iff_forall_not_mem.mpr fun other member => ?_
          have below : width > other := (List.pairwise_cons.mp stacked.falls).1 other member
          omega
        have bottom : width = 0 := by omega
        rw [none, bottom]
        rfl

end Stacked

namespace Layout

variable {free : Groups → Prop} {tokens : List Token} {indents : List Nat} {groups : Groups}

theorem stacked (laid : Layout free tokens indents groups) : Stacked indents := by
  induction laid with
  | start => exact .zero
  | indent _ _ _ _ _ _ _ _ deeper _ ih => exact ih.push deeper
  | dedent _ _ _ _ _ _ _ within _ ih => exact ih.pop within
  | newline _ _ _ _ _ _ _ ih => exact ih
  | read _ _ _ _ _ _ ih => exact ih

theorem levels (laid : Layout free tokens indents groups) :
    countKind .indent tokens + 1 = countKind .dedent tokens + indents.length := by
  induction laid with
  | start => rfl
  | indent token earlier width level outer groups kind _ _ _ ih =>
      rw [countKind_same .indent token earlier kind,
        countKind_other .dedent token earlier (by rw [kind]; decide)]
      simp only [List.length_cons] at ih ⊢
      omega
  | dedent token earlier width outer groups kind _ _ _ ih =>
      rw [countKind_same .dedent token earlier kind,
        countKind_other .indent token earlier (by rw [kind]; decide)]
      simp only [List.length_cons] at ih
      omega
  | newline token earlier indents groups kind _ _ ih =>
      rw [countKind_other .dedent token earlier (by rw [kind]; decide),
        countKind_other .indent token earlier (by rw [kind]; decide)]
      exact ih
  | read token earlier indents groups kind _ ih =>
      have other (layout : TokenKind) (laid : layout.isRead = false) : token.kind ≠ layout := by
        intro same
        rw [same, laid] at kind
        cases kind
      rw [countKind_other .dedent token earlier (other _ rfl),
        countKind_other .indent token earlier (other _ rfl)]
      exact ih

theorem nested (laid : Layout free tokens indents groups) :
    countKind .dedent tokens ≤ countKind .indent tokens := by
  have balance := laid.levels
  have positive : 0 < indents.length := by
    refine List.length_pos_iff.mpr ?_
    rintro rfl
    cases laid.stacked.bottom
  omega

theorem brackets (laid : Layout free tokens indents groups) : groups = openGroups tokens.reverse := by
  induction laid with
  | start => rfl
  | indent token earlier _ _ _ groups kind _ _ _ ih | dedent token earlier _ _ groups kind _ _ _ ih
  | newline token earlier _ groups kind _ _ ih =>
      have layout : token.kind.isLayout = true := by rw [kind]; rfl
      rw [List.reverse_cons, openGroups, List.foldl_append, ← openGroups, ← ih]
      exact (Groups.after_layout groups _ token.kind layout).symm
  | read token earlier _ groups _ _ ih =>
      rw [List.reverse_cons, openGroups, List.foldl_append, ← openGroups, ← ih]
      rfl

theorem goes_on (laid : Layout free tokens indents groups) : ∀ token ∈ tokens, token.kind ≠ .endOfFile := by
  induction laid with
  | start => simp
  | indent token _ _ _ _ _ kind _ _ _ ih | dedent token _ _ _ _ kind _ _ _ ih
  | newline token _ _ _ kind _ _ ih =>
      exact List.forall_mem_cons.mpr ⟨by rw [kind]; decide, ih⟩
  | read token _ _ _ kind _ ih =>
      refine List.forall_mem_cons.mpr ⟨fun last => ?_, ih⟩
      rw [last] at kind
      cases kind

theorem earlier (laid : Layout free tokens indents groups) (first : List Token)
    (before : first <:+ tokens) : ∃ indents groups, Layout free first indents groups := by
  induction laid with
  | start =>
      rw [List.suffix_nil.mp before]
      exact ⟨_, _, .start⟩
  | indent token earlier width level outer groups kind allowed deeper laid ih =>
      rcases List.suffix_cons_iff.mp before with rfl | sooner
      · exact ⟨_, _, .indent token earlier width level outer groups kind allowed deeper laid⟩
      · exact ih sooner
  | dedent token earlier width outer groups kind allowed within laid ih =>
      rcases List.suffix_cons_iff.mp before with rfl | sooner
      · exact ⟨_, _, .dedent token earlier width outer groups kind allowed within laid⟩
      · exact ih sooner
  | newline token earlier indents groups kind allowed laid ih =>
      rcases List.suffix_cons_iff.mp before with rfl | sooner
      · exact ⟨_, _, .newline token earlier indents groups kind allowed laid⟩
      · exact ih sooner
  | read token earlier indents groups kind laid ih =>
      rcases List.suffix_cons_iff.mp before with rfl | sooner
      · exact ⟨_, _, .read token earlier indents groups kind laid⟩
      · exact ih sooner

theorem outside (token : Token) (earlier : List Token) (layout : token.kind.isLayout = true)
    (laid : Layout free (token :: earlier) indents groups) : free (openGroups earlier.reverse) := by
  cases laid with
  | indent _ _ _ _ _ _ _ allowed _ laid => exact laid.brackets ▸ allowed
  | dedent _ _ _ _ _ _ allowed _ laid => exact laid.brackets ▸ allowed
  | newline _ _ _ _ _ allowed laid => exact laid.brackets ▸ allowed
  | read _ _ _ _ kind _ =>
      rw [TokenKind.isRead, layout] at kind
      cases kind

theorem outside_within (laid : Layout free tokens indents groups) (before : List Token) (token : Token)
    (after : List Token) (split : tokens.reverse = before ++ token :: after)
    (layout : token.kind.isLayout = true) : free (openGroups before) := by
  have flipped : tokens = after.reverse ++ token :: before.reverse := by
    simpa using congrArg List.reverse split
  obtain ⟨_, _, earlier⟩ := laid.earlier (token :: before.reverse) ⟨after.reverse, flipped.symm⟩
  simpa using outside token before.reverse layout earlier

theorem nested_within (laid : Layout free tokens indents groups) (first : List Token)
    (before : first <+: tokens.reverse) : countKind .dedent first ≤ countKind .indent first := by
  have sooner : first.reverse <:+ tokens := by simpa using List.reverse_suffix.mpr before
  obtain ⟨_, _, earlier⟩ := laid.earlier first.reverse sooner
  have nested := earlier.nested
  rwa [countKind_reverse, countKind_reverse] at nested

theorem balanced {bottom : Nat} (laid : Layout free tokens [bottom] groups) :
    countKind .dedent tokens = countKind .indent tokens := by
  have levels := laid.levels
  simp only [List.length_singleton] at levels
  omega

theorem anywhere (laid : Layout free tokens indents groups) :
    Layout (fun _ => True) tokens indents groups := by
  induction laid with
  | start => exact .start
  | indent token earlier width level outer groups kind _ deeper _ ih =>
      exact .indent token earlier width level outer groups kind trivial deeper ih
  | dedent token earlier width outer groups kind _ within _ ih =>
      exact .dedent token earlier width outer groups kind trivial within ih
  | newline token earlier indents groups kind _ _ ih =>
      exact .newline token earlier indents groups kind trivial ih
  | read token earlier indents groups kind _ ih => exact .read token earlier indents groups kind ih

theorem closing (laid : Layout free tokens indents groups) (allowed : free groups) (width : Nat)
    (token : Token) (kind : token.kind = .dedent) :
    let kept := indents.dropWhile fun top => decide (width < top)
    Layout free (List.replicate (indents.length - kept.length) token ++ tokens) kept groups := by
  induction indents generalizing tokens with
  | nil => exact laid
  | cons level outer ih =>
      by_cases deeper : width < level
      · have fewer := (List.dropWhile_suffix (l := outer) fun top => decide (width < top)).length_le
        have one : (level :: outer).length - (outer.dropWhile fun top => decide (width < top)).length =
            (outer.length - (outer.dropWhile fun top => decide (width < top)).length) + 1 := by
          simp only [List.length_cons]
          omega
        rw [List.dropWhile_cons, if_pos (decide_eq_true deeper)]
        dsimp only
        rw [one, List.replicate_succ', List.append_assoc]
        exact ih (.dedent token tokens level outer groups kind allowed
          (laid.stacked.outermost (Nat.zero_lt_of_lt deeper)) laid)
      · rw [List.dropWhile_cons, if_neg (by simpa using deeper)]
        simpa using laid

end Layout

namespace Scan

def Laid (scan : Scan) : Prop :=
  Layout (fun groups => groups.depth = 0) scan.tokens scan.indents scan.groups

section Fields

variable (scan : Scan) (count width : Nat) (first : Location)

@[simp] theorem advance_tokens : (scan.advance count).tokens = scan.tokens := rfl

@[simp] theorem advance_indents : (scan.advance count).indents = scan.indents := rfl

@[simp] theorem advance_groups : (scan.advance count).groups = scan.groups := rfl

@[simp] theorem advance_ahead : (scan.advance count).ahead = scan.ahead.drop count := rfl

@[simp] theorem settleIndent_ahead : (scan.settleIndent width first).ahead = scan.ahead := by
  unfold settleIndent
  split <;> rfl

@[simp] theorem startLine_ahead : (scan.startLine width first).ahead = scan.ahead := by
  unfold startLine
  dsimp only
  split
  · split
    · exact settleIndent_ahead _ width first
    · rfl
  · rfl

@[simp] theorem readNewline_ahead : scan.readNewline.ahead = scan.ahead.drop 1 := by
  unfold readNewline
  dsimp only
  split <;> rfl

@[simp] theorem readNewline_indents : scan.readNewline.indents = scan.indents := by
  unfold readNewline
  dsimp only
  split <;> rfl

end Fields

def Turns (indents next : List Nat) : Prop := (∃ width, next = width :: indents) ∨ next <:+ indents

theorem settleIndent_laid (scan : Scan) (width : Nat) (first : Location) (laid : scan.Laid)
    (outside : scan.groups.depth = 0) :
    (scan.settleIndent width first).Laid ∧ Turns scan.indents (scan.settleIndent width first).indents := by
  unfold settleIndent
  split
  · rename_i deeper
    cases indents : scan.indents with
    | nil =>
        rw [indents] at deeper
        cases deeper
    | cons level outer =>
        have below : level < width := by simpa [indents] using deeper
        refine ⟨?_, .inl ⟨width, rfl⟩⟩
        unfold Laid at laid
        rw [indents] at laid
        exact .indent _ _ width level outer _ rfl outside below laid
  · exact ⟨laid.closing outside width _ rfl, .inr (List.dropWhile_suffix _)⟩

theorem startLine_laid (scan : Scan) (width : Nat) (first : Location) (laid : scan.Laid) :
    (scan.startLine width first).Laid ∧ Turns scan.indents (scan.startLine width first).indents := by
  unfold startLine
  dsimp only
  split
  · split
    · rename_i outside
      exact settleIndent_laid _ width first laid outside
    · exact ⟨laid, .inr (List.suffix_refl _)⟩
  · exact ⟨laid, .inr (List.suffix_refl _)⟩

theorem reads_laid (scan next : Scan) (reads : scan.Reads next) (laid : scan.Laid) :
    next.Laid ∧ next.indents = scan.indents := by
  cases reads with
  | nothing => exact ⟨laid, rfl⟩
  | newline rest ahead =>
      refine ⟨?_, readNewline_indents scan⟩
      unfold readNewline
      dsimp only
      split
      · rename_i outside
        exact .newline _ _ _ _ rfl outside laid
      · exact laid
  | token c rest kind payload count reports ahead read =>
      exact ⟨.read _ _ _ _ read laid, rfl⟩

theorem round_laid (dialect : Dialect) (scan next : Scan) (ran : scan.round dialect = .ok next)
    (laid : scan.Laid) : next.Laid ∧ Turns scan.indents next.indents := by
  cases round_cases dialect scan next ran with
  | comment count _ reads _ =>
      obtain ⟨kept, same⟩ := reads_laid _ next reads laid
      exact ⟨kept, .inr (same ▸ List.suffix_refl _)⟩
  | within _ _ reads =>
      obtain ⟨kept, same⟩ := reads_laid _ next reads laid
      exact ⟨kept, .inr (same ▸ List.suffix_refl _)⟩
  | starts _ _ reads =>
      have started := startLine_laid (scan.advance (trivia scan.ahead).length)
        (indentWidth dialect.tabWidth scan.ahead) scan.place laid
      obtain ⟨kept, same⟩ := reads_laid _ next reads started.1
      exact ⟨kept, same ▸ started.2⟩

theorem reads_shorter (scan next : Scan) (reads : scan.Reads next) :
    next.ahead.length < scan.ahead.length ∨ scan.ahead = [] ∧ next.ahead = [] := by
  cases reads with
  | nothing ended => exact .inr ⟨ended, ended⟩
  | newline rest ahead =>
      refine .inl ?_
      rw [readNewline_ahead, ahead]
      simp
  | token c rest kind payload count reports ahead _ positive =>
      refine .inl ?_
      change (scan.ahead.drop count).length < _
      rw [List.length_drop, ahead, List.length_cons]
      omega

theorem round_shorter (dialect : Dialect) (scan next : Scan) (ran : scan.round dialect = .ok next)
    (more : scan.ahead ≠ []) : next.ahead.length < scan.ahead.length := by
  have positive : 0 < scan.ahead.length := List.length_pos_iff.mpr more
  have passed (count : Nat) (middle : Scan) (same : middle.ahead = scan.ahead.drop count)
      (reads : middle.Reads next) : next.ahead.length < scan.ahead.length := by
    have bound : middle.ahead.length ≤ scan.ahead.length := by
      rw [same, List.length_drop]
      omega
    rcases reads_shorter middle next reads with shorter | ⟨_, ended⟩
    · omega
    · rw [ended]
      exact positive
  cases round_cases dialect scan next ran with
  | comment count _ reads _ => exact passed count _ rfl reads
  | within _ _ reads => exact passed _ _ rfl reads
  | starts _ _ reads => exact passed _ _ (startLine_ahead _ _ _) reads

theorem rounds_keep (dialect : Dialect) (keeps : Scan → Prop)
    (kept : ∀ scan next, keeps scan → scan.ahead ≠ [] → scan.round dialect = .ok next → keeps next)
    (count : Nat) (scan last : Scan) (holds : keeps scan)
    (ran : scan.rounds dialect count = .ok last) : keeps last := by
  induction count generalizing scan with
  | zero =>
      cases ran
      exact holds
  | succ count ih =>
      rw [rounds] at ran
      split at ran
      · cases ran
        exact holds
      · rename_i more
        cases one : scan.round dialect with
        | error fault =>
            rw [one] at ran
            cases ran
        | ok next =>
            rw [one] at ran
            exact ih next (kept scan next holds (by simpa using more) one) ran

theorem rounds_ended (dialect : Dialect) (count : Nat) (scan last : Scan)
    (enough : scan.ahead.length ≤ count) (ran : scan.rounds dialect count = .ok last) :
    last.ahead = [] := by
  induction count generalizing scan with
  | zero =>
      cases ran
      exact List.length_eq_zero_iff.mp (Nat.le_zero.mp enough)
  | succ count ih =>
      rw [rounds] at ran
      split at ran
      · rename_i ended
        cases ran
        simpa using ended
      · rename_i more
        cases one : scan.round dialect with
        | error fault =>
            rw [one] at ran
            cases ran
        | ok next =>
            rw [one] at ran
            have shorter := round_shorter dialect scan next one (by simpa using more)
            exact ih next (by omega) ran

theorem rounds_laid (dialect : Dialect) (file : Option String) (source : String) (count : Nat)
    (last : Scan) (ran : (start file source).rounds dialect count = .ok last) : last.Laid := by
  have begun : (start file source).Laid := Layout.start
  exact rounds_keep dialect Laid (fun scan next laid _ one => (round_laid dialect scan next one laid).1)
    count _ last begun ran

end Scan

def Worded (tokens : List Token) : Prop :=
  ∀ token ∈ tokens, Text.isIdentifier token.lexeme = true →
    token.kind.isLayout = false ∧ token.kind.isBracket = false

theorem Worded.mark {tokens : List Token} (worded : Worded tokens) (token : Token)
    (mark : Text.isIdentifier token.lexeme = false) : Worded (token :: tokens) := by
  refine List.forall_mem_cons.mpr ⟨fun word => ?_, worded⟩
  rw [mark] at word
  cases word

namespace Scan

theorem settleIndent_worded (scan : Scan) (width : Nat) (first : Location) (worded : Worded scan.tokens) :
    Worded (scan.settleIndent width first).tokens := by
  unfold settleIndent
  split
  · exact worded.mark _ rfl
  · intro token member
    rcases List.mem_append.mp member with closing | earlier
    · rw [(List.mem_replicate.mp closing).2]
      rintro ⟨⟩
    · exact worded token earlier

theorem startLine_worded (scan : Scan) (width : Nat) (first : Location) (worded : Worded scan.tokens) :
    Worded (scan.startLine width first).tokens := by
  unfold startLine
  dsimp only
  split
  · split
    · exact settleIndent_worded _ width first worded
    · exact worded
  · exact worded

theorem reads_worded (scan next : Scan) (reads : scan.Reads next) (worded : Worded scan.tokens) :
    Worded next.tokens := by
  cases reads with
  | nothing => exact worded
  | newline rest ahead =>
      unfold readNewline
      dsimp only
      split
      · exact worded.mark _ (show Text.isIdentifier "\\n" = false by decide)
      · exact worded
  | token c rest kind payload count reports ahead read positive lines nul mark =>
      refine List.forall_mem_cons.mpr ⟨fun word => ?_, worded⟩
      have plain : kind.isLayout = false := by simpa using (Bool.and_eq_true_iff.mp read).1
      refine ⟨plain, Bool.eq_false_iff.mpr fun bracket => ?_⟩
      obtain ⟨rfl, other⟩ := mark bracket
      have lexeme : String.ofList (scan.ahead.take 1) = String.ofList [c] := by rw [ahead]; rfl
      have starts : Text.isIdentifier (String.ofList [c]) = true := lexeme ▸ word
      simp [Text.isIdentifier, other] at starts

theorem round_worded (dialect : Dialect) (scan next : Scan) (ran : scan.round dialect = .ok next)
    (worded : Worded scan.tokens) : Worded next.tokens := by
  cases round_cases dialect scan next ran with
  | comment count _ reads _ => exact reads_worded _ next reads worded
  | within _ _ reads => exact reads_worded _ next reads worded
  | starts _ _ reads => exact reads_worded _ next reads (startLine_worded _ _ _ worded)

theorem rounds_worded (dialect : Dialect) (file : Option String) (source : String) (count : Nat)
    (last : Scan) (ran : (start file source).rounds dialect count = .ok last) : Worded last.tokens :=
  rounds_keep dialect (fun scan => Worded scan.tokens)
    (fun scan next worded _ one => round_worded dialect scan next one worded) count _ last (by simp [start, Worded])
    ran

end Scan

end Fiscal.Token
