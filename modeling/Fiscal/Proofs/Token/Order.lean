import Fiscal.Proofs.Token.Coverage
import Mathlib.Data.List.Nodup
import Mathlib.Order.Lattice

set_option autoImplicit false

namespace Fiscal.Source

instance : Preorder Span := .lift fun span => (span.start.offset, span.stop.offset)

theorem Span.le_iff {first second : Span} :
    first ≤ second ↔ first.start.offset ≤ second.start.offset ∧ first.stop.offset ≤ second.stop.offset :=
  Prod.le_def

def Span.Forward (span : Span) : Prop := span.start.offset ≤ span.stop.offset

end Fiscal.Source

namespace Fiscal.Token

open Source

structure Ordered (tokens : List Token) : Prop where
  sorted : tokens.Pairwise (·.span ≤ ·.span)
  forward : ∀ token ∈ tokens, token.span.Forward

structure Climbs (offset : Nat) (tokens : List Token) : Prop where
  sorted : tokens.Pairwise (·.span ≥ ·.span)
  forward : ∀ token ∈ tokens, token.span.Forward
  within : ∀ token ∈ tokens, token.span.stop.offset ≤ offset

namespace Climbs

variable {offset later : Nat} {tokens : List Token}

theorem nothing (offset : Nat) : Climbs offset [] :=
  ⟨.nil, List.forall_mem_nil _, List.forall_mem_nil _⟩

theorem further (climbs : Climbs offset tokens) (behind : offset ≤ later) : Climbs later tokens :=
  ⟨climbs.sorted, climbs.forward, fun token member => (climbs.within token member).trans behind⟩

theorem put (climbs : Climbs offset tokens) (count : Nat) (token : Token)
    (begins : offset ≤ token.span.start.offset) (forward : token.span.Forward) :
    Climbs token.span.stop.offset (List.replicate count token ++ tokens) := by
  have below (earlier : Token) (member : earlier ∈ tokens) : earlier.span ≤ token.span := by
    have ended := climbs.within earlier member
    exact Span.le_iff.mpr ⟨(climbs.forward earlier member).trans (ended.trans begins),
      ended.trans (begins.trans forward)⟩
  refine ⟨List.pairwise_append.mpr ⟨?_, climbs.sorted, fun latest new earlier member => ?_⟩,
    fun other member => ?_, fun other member => ?_⟩
  · exact List.pairwise_replicate.mpr (.inr le_rfl)
  · rw [(List.mem_replicate.mp new).2]
    exact below earlier member
  · rcases List.mem_append.mp member with new | before
    · rw [(List.mem_replicate.mp new).2]
      exact forward
    · exact climbs.forward other before
  · rcases List.mem_append.mp member with new | before
    · rw [(List.mem_replicate.mp new).2]
    · exact (Span.le_iff.mp (below other before)).2

theorem reverse (climbs : Climbs offset tokens) : Ordered tokens.reverse :=
  ⟨List.pairwise_reverse.mpr climbs.sorted, fun token member =>
    climbs.forward token (List.mem_reverse.mp member)⟩

end Climbs

namespace Scan

variable {scan next : Scan} {source : List Char}

theorem advance_offset (count : Nat) (scan : Scan) : scan.place.offset ≤ (scan.advance count).place.offset := by
  have passed : (scan.advance count).place.offset = scan.place.offset + (scan.ahead.take count).length :=
    Location.afterAll_offset _ _
  omega

theorem settleIndent_climbs (width : Nat) (first : Location) (climbs : Climbs first.offset scan.tokens)
    (behind : first.offset ≤ scan.place.offset) (lineStart : Bool) :
    Climbs scan.place.offset (({ scan with lineStart := lineStart } : Scan).settleIndent width first).tokens := by
  unfold settleIndent
  split
  · exact climbs.put 1 ⟨.indent, .none, "", ⟨first, scan.place⟩⟩ le_rfl behind
  · exact climbs.put _ ⟨.dedent, .none, "", ⟨first, scan.place⟩⟩ le_rfl behind

theorem startLine_climbs (width : Nat) (first : Location) (climbs : Climbs first.offset scan.tokens)
    (behind : first.offset ≤ scan.place.offset) :
    Climbs scan.place.offset (scan.startLine width first).tokens := by
  unfold startLine
  dsimp only
  split
  · split
    · exact settleIndent_climbs width first climbs behind false
    · exact climbs.further behind
  · exact climbs.further behind

theorem reads_climbs (reads : scan.Reads next) (climbs : Climbs scan.place.offset scan.tokens) :
    Climbs next.place.offset next.tokens := by
  cases reads with
  | nothing => exact climbs
  | newline =>
      have behind := advance_offset 1 scan
      unfold readNewline
      dsimp only
      split
      · exact climbs.put 1 ⟨.newline, .none, "\\n", ⟨scan.place, (scan.advance 1).place⟩⟩ le_rfl behind
      · exact climbs.further behind
  | token c rest kind payload count reports =>
      exact climbs.put 1 ⟨kind, payload, _, ⟨scan.place, (scan.advance count).place⟩⟩ le_rfl
        (advance_offset count scan)

theorem round_climbs (dialect : Dialect) (ran : scan.round dialect = .ok next)
    (climbs : Climbs scan.place.offset scan.tokens) : Climbs next.place.offset next.tokens := by
  have advanced (count : Nat) : Climbs (scan.advance count).place.offset (scan.advance count).tokens :=
    climbs.further (advance_offset count scan)
  cases round_cases dialect scan next ran with
  | comment count _ reads => exact reads_climbs reads (advanced count)
  | within _ _ reads => exact reads_climbs reads (advanced _)
  | starts _ _ reads =>
      refine reads_climbs reads ?_
      rw [startLine_place]
      exact startLine_climbs _ scan.place climbs (advance_offset _ scan)

theorem rounds_climb (dialect : Dialect) (file : Option String) (source : String) (count : Nat) (last : Scan)
    (ran : (start file source).rounds dialect count = .ok last) : Climbs last.place.offset last.tokens :=
  rounds_keep dialect (fun scan => Climbs scan.place.offset scan.tokens)
    (fun _ _ climbs _ one => round_climbs dialect one climbs) count _ last (.nothing _) ran

end Scan

theorem stream_ordered {tabWidth : Nat} {currencies : List String} {file : Option String} {source : String}
    {stream : Stream} (scanned : scan tabWidth currencies file source = .ok stream) : Ordered stream.tokens := by
  obtain ⟨ended, goes, empty, tokens, _⟩ := scan_ended.mp scanned
  have climbs := Scan.rounds_climb _ file source _ ended (goes.rounds empty (Nat.le_refl _))
  rw [List.append_assoc] at tokens
  have points (token : Token) (member : token ∈ ended.closing ++ [ended.ending]) :
      token.span = .point ended.place :=
    (ending_point ended token member).2
  obtain ⟨sorted, forward⟩ := climbs.reverse
  rw [tokens]
  refine ⟨List.pairwise_append.mpr ⟨sorted, ?_, fun earlier before later last => ?_⟩, fun token member => ?_⟩
  · refine List.pairwise_of_forall_mem_list fun first member second among => ?_
    rw [points first member, points second among]
  · have ends := climbs.within earlier (List.mem_reverse.mp before)
    rw [points later last]
    exact Span.le_iff.mpr ⟨(forward earlier before).trans ends, ends⟩
  · rcases List.mem_append.mp member with before | last
    · exact forward token before
    · rw [points token last]
      exact Nat.le_refl _

def indentStarts (tokens : List Token) : List Location :=
  (tokens.filter (·.kind == .indent)).map (·.span.start)

theorem indentStarts_append (first second : List Token) :
    indentStarts (first ++ second) = indentStarts first ++ indentStarts second := by
  rw [indentStarts, List.filter_append, List.map_append, indentStarts, indentStarts]

theorem indentStarts_other (token : Token) (rest : List Token) (other : token.kind ≠ .indent) :
    indentStarts (token :: rest) = indentStarts rest := by
  rw [indentStarts, List.filter_cons_of_neg (by simpa using other), indentStarts]

theorem indentStarts_indent (token : Token) (rest : List Token) (kind : token.kind = .indent) :
    indentStarts (token :: rest) = token.span.start :: indentStarts rest := by
  rw [indentStarts, List.filter_cons_of_pos (by simpa using kind), List.map_cons, indentStarts]

def Descends (offset : Nat) (tokens : List Token) : Prop :=
  (offset :: (indentStarts tokens).map Location.offset).Pairwise (· > ·)

namespace Descends

variable {offset later : Nat} {tokens : List Token}

theorem further (descends : Descends offset tokens) (behind : offset ≤ later) : Descends later tokens := by
  obtain ⟨before, falls⟩ := List.pairwise_cons.mp descends
  exact List.pairwise_cons.mpr ⟨fun start member => Nat.lt_of_lt_of_le (before start member) behind, falls⟩

theorem other (descends : Descends offset tokens) (token : Token) (kind : token.kind ≠ .indent) :
    Descends offset (token :: tokens) := by
  rw [Descends, indentStarts_other token tokens kind]
  exact descends

theorem others (descends : Descends offset tokens) (latest : List Token)
    (kinds : ∀ token ∈ latest, token.kind ≠ .indent) : Descends offset (latest ++ tokens) := by
  induction latest with
  | nil => exact descends
  | cons token rest ih =>
      obtain ⟨first, later⟩ := List.forall_mem_cons.mp kinds
      exact (ih later).other token first

theorem indent (token : Token) (kind : token.kind = .indent) (descends : Descends token.span.start.offset tokens) :
    Descends (token.span.start.offset + 1) (token :: tokens) := by
  rw [Descends, indentStarts_indent token tokens kind, List.map_cons]
  refine List.pairwise_cons.mpr ⟨fun start member => ?_, descends⟩
  rcases List.mem_cons.mp member with rfl | earlier
  · exact Nat.lt_succ_self _
  · exact Nat.lt_succ_of_lt ((List.pairwise_cons.mp descends).1 start earlier)

theorem nodup (descends : Descends offset tokens) : (indentStarts tokens).Nodup := by
  have falls := List.pairwise_map.mp (List.pairwise_cons.mp descends).2
  exact falls.imp fun later same => Nat.ne_of_gt later (congrArg Location.offset same)

end Descends

namespace Scan

variable {scan next : Scan} {offset : Nat}

theorem settleIndent_descends (width : Nat) (first : Location) (descends : Descends first.offset scan.tokens) :
    Descends (first.offset + 1) (scan.settleIndent width first).tokens := by
  unfold settleIndent
  split
  · exact .indent ⟨.indent, .none, "", ⟨first, scan.place⟩⟩ rfl descends
  · refine (descends.further (Nat.le_succ _)).others _ fun token member => ?_
    rw [(List.mem_replicate.mp member).2]
    nofun

theorem startLine_descends (width : Nat) (first : Location) (descends : Descends first.offset scan.tokens) :
    Descends (first.offset + 1) (scan.startLine width first).tokens := by
  unfold startLine
  dsimp only
  split
  · split
    · exact settleIndent_descends width first descends
    · exact descends.further (Nat.le_succ _)
  · exact descends.further (Nat.le_succ _)

theorem reads_descends (reads : scan.Reads next) (descends : Descends offset scan.tokens) :
    Descends offset next.tokens := by
  cases reads with
  | nothing => exact descends
  | newline =>
      unfold readNewline
      dsimp only
      split
      · exact descends.other _ (by simp)
      · exact descends
  | token c rest kind payload count reports _ read =>
      refine descends.other ⟨kind, payload, _, _⟩ fun same => ?_
      rw [show kind = .indent from same] at read
      cases read

theorem round_descends (dialect : Dialect) (ran : scan.round dialect = .ok next)
    (descends : Descends scan.place.offset scan.tokens) : Descends (scan.place.offset + 1) next.tokens := by
  have advanced (count : Nat) : Descends scan.place.offset (scan.advance count).tokens := descends
  cases round_cases dialect scan next ran with
  | comment count _ reads => exact (reads_descends reads (advanced count)).further (Nat.le_succ _)
  | within _ _ reads => exact (reads_descends reads (advanced _)).further (Nat.le_succ _)
  | starts _ _ reads => exact reads_descends reads (startLine_descends _ scan.place (advanced _))

theorem rounds_descend (dialect : Dialect) (file : Option String) (source : String) (count : Nat) (last : Scan)
    (ran : (start file source).rounds dialect count = .ok last) : Descends last.place.offset last.tokens := by
  have begun : (start file source).Lies source.toList := (rounds_lies dialect file source 0 _ rfl).1
  refine (rounds_keep dialect (fun scan => scan.Lies source.toList ∧ Descends scan.place.offset scan.tokens) ?_
    count _ last ⟨begun, List.pairwise_singleton _ _⟩ ran).2
  rintro scan next ⟨lies, descends⟩ more one
  have onward := round_lies dialect one lies
  have shorter := round_shorter dialect scan next one more
  rw [lies.ahead, onward.ahead, List.length_drop, List.length_drop] at shorter
  have within := onward.place.within
  exact ⟨onward, (round_descends dialect one descends).further (by omega)⟩

end Scan

theorem indentStarts_nodup (tabWidth : Nat) (currencies : List String) (file : Option String) (source : String)
    (stream : Stream) (scanned : scan tabWidth currencies file source = .ok stream) :
    (indentStarts stream.tokens).Nodup := by
  obtain ⟨ended, ran, _, _, _, tokens⟩ := scan_cases tabWidth currencies file source stream scanned
  have nodup := (Scan.rounds_descend _ file source _ ended ran).nodup
  have last : indentStarts (ended.closing ++ [ended.ending]) = [] := by
    unfold indentStarts
    rw [List.map_eq_nil_iff, List.filter_eq_nil_iff]
    intro token member
    simp only [Scan.closing, List.mem_append, List.mem_replicate, List.mem_singleton] at member
    rcases member with (line | ⟨_, rfl⟩) | rfl
    · split at line
      · cases List.mem_singleton.mp line
        exact Bool.false_ne_true
      · cases line
    · exact Bool.false_ne_true
    · exact Bool.false_ne_true
  rw [tokens, List.append_assoc, indentStarts_append, last, List.append_nil]
  unfold indentStarts at nodup ⊢
  rw [List.filter_reverse, List.map_reverse]
  exact List.nodup_reverse.mpr nodup

end Fiscal.Token
