import PointTable.Proofs.Splits

/-!
# No cut has fewer blocks

A run of tags may be read at once if its span and the holes in it keep the limits; a single tag
always may. Batching cuts the sorted tags into such runs, and into as few of them as possible.

A run does not stay feasible when its first tags are dropped, because a long early tag may bridge a
later hole. What is compared is therefore not where two cuts break but how far they reach. As long
as the other cut holds no tag that is too wide alone, batching reaches at least as far as it does,
so whatever the other cut may join, batching may join too unless it still has a block to spare.
-/

namespace PointTable

namespace Batching

/-! ## Feasible cuts -/

/-- A run of tags may be read at once. -/
structure Feasible (limits : Limits) (run : List Tag) : Prop where
  /-- Two or more tags keep the span. -/
  span : ∀ first later, run = first :: later → later ≠ [] →
    (reach run : Int) - first.address ≤ limits.maxSpan
  /-- No tag but the first lies too far behind all tags before it. -/
  gaps : ∀ before tag, before ≠ [] → before ++ [tag] <+: run →
    (tag.address : Int) - reach before ≤ limits.maxGap

/-- The sorted tags are cut into runs that may each be read at once. -/
structure FeasibleCut (limits : Limits) (tags : List Tag) (runs : List (List Tag)) : Prop where
  sorted : StablySorts tags runs.flatten
  filled : ∀ run ∈ runs, run ≠ []
  feasible : ∀ run ∈ runs, Feasible limits run

theorem Feasible.widen {limits wider : Limits} {run : List Tag} (feasible : Feasible limits run)
    (gap : limits.maxGap ≤ wider.maxGap) (span : limits.maxSpan ≤ wider.maxSpan) :
    Feasible wider run := by
  constructor
  · intro first later equal more
    exact Int.le_trans (feasible.span first later equal more) span
  · intro before tag filled initial
    exact Int.le_trans (feasible.gaps before tag filled initial) gap

theorem FeasibleCut.widen {limits wider : Limits} {tags : List Tag} {runs : List (List Tag)}
    (cut : FeasibleCut limits tags runs) (gap : limits.maxGap ≤ wider.maxGap)
    (span : limits.maxSpan ≤ wider.maxSpan) : FeasibleCut wider tags runs :=
  ⟨cut.sorted, cut.filled, fun run member => (cut.feasible run member).widen gap span⟩

end Batching

/-! ## Blocks over runs -/

namespace Block

open Batching

variable {limits : Limits} {block : Block} {tag : Tag} {run : List Tag}

/-- In a block that has grown, each tag was admitted behind those before it. -/
theorem Grown.gaps (grown : block.Grown limits) :
    ∀ before tag, before ≠ [] → before ++ [tag] <+: block.tags →
      (tag.address : Int) - reach before ≤ limits.maxGap := by
  induction grown with
  | single only =>
      intro before tag filled initial
      have short : (before ++ [tag]).length ≤ 1 := initial.length_le
      have long := List.length_pos_iff.mpr filled
      rw [List.length_append, List.length_singleton] at short
      omega
  | @join block last grown admitted ih =>
      intro before tag filled initial
      cases List.prefix_concat_iff.mp initial with
      | inl whole =>
          obtain ⟨rfl, equal⟩ := List.append_inj' whole rfl
          obtain rfl : tag = last := by simpa using equal
          rw [← grown.covers.stop]
          exact (admits_eq_true_iff.mp admitted).1
      | inr inner => exact ih before tag filled inner

theorem Grown.feasible (grown : block.Grown limits) : Feasible limits block.tags := by
  constructor
  · intro first later tagsEq more
    have fits : block.length ≤ limits.maxSpan := by
      by_contra long
      obtain ⟨tag, rfl⟩ := grown.eq_single (Int.not_le.mp long)
      exact more (List.cons.inj tagsEq).2.symm
    obtain ⟨head, others, headEq, _, starts⟩ := grown.covers.opens
    obtain rfl : first = head := (List.cons.inj (tagsEq.symm.trans headEq)).1
    rw [← grown.covers.stop, ← starts, Block.stop]
    omega
  · exact grown.gaps

theorem Covers.admits {before later : List Tag} (covers : block.Covers before)
    (feasible : Feasible limits (before ++ tag :: later)) : block.admits limits tag = true := by
  obtain ⟨first, others, rfl, _, starts⟩ := covers.opens
  rw [admits_eq_true_iff, covers.stop, starts]
  constructor
  · apply feasible.gaps (first :: others) tag (List.cons_ne_nil _ _)
    exact ⟨later, by simp⟩
  · have span := feasible.span first (others ++ tag :: later) rfl (by simp)
    simp only [List.cons_append, reach, reach_append] at span ⊢
    omega

end Block

namespace Batching

/-! ## Other cuts -/

/-- Every way to cut the tags behind a block within the limits, with the number of blocks that it
makes. Batching is the one that joins whenever it may. -/
inductive Cuts (limits : Limits) : Block → List Tag → Nat → Prop
  | done (block : Block) : Cuts limits block [] 1
  | join {block : Block} {tag : Tag} {rest : List Tag} {count : Nat}
      (admitted : block.admits limits tag = true) (cuts : Cuts limits (block.join tag) rest count) :
      Cuts limits block (tag :: rest) count
  | split {block : Block} {tag : Tag} {rest : List Tag} {count : Nat}
      (cuts : Cuts limits (Block.single tag) rest count) :
      Cuts limits block (tag :: rest) (count + 1)

/-- A block over the front of a feasible run may take in the rest of it. -/
theorem cuts_of_feasible {limits : Limits} {before later rest : List Tag} {count : Nat}
    {block : Block} (covers : block.Covers before) (feasible : Feasible limits (before ++ later))
    (behind : ∀ whole, Cuts limits whole rest count) : Cuts limits block (later ++ rest) count := by
  induction later generalizing block before with
  | nil => exact behind block
  | cons tag later ih =>
      apply Cuts.join (covers.admits feasible)
      apply ih (covers.join tag)
      rw [List.append_assoc, List.singleton_append]
      exact feasible

theorem cuts_of_runs {limits : Limits} {first : Tag} {later : List Tag} {runs : List (List Tag)}
    (filled : ∀ run ∈ runs, run ≠ [])
    (feasible : ∀ run ∈ (first :: later) :: runs, Feasible limits run) :
    Cuts limits (Block.single first) (later ++ runs.flatten) (runs.length + 1) := by
  induction runs generalizing first later with
  | nil =>
      apply cuts_of_feasible (Block.single_covers first)
      · exact feasible _ List.mem_cons_self
      · exact Cuts.done
  | cons run runs ih =>
      rw [List.forall_mem_cons] at filled feasible
      cases run with
      | nil => exact absurd rfl filled.1
      | cons next others =>
          apply cuts_of_feasible (Block.single_covers first) feasible.1
          intro whole
          exact .split (ih filled.2 feasible.2)

/-! ## Batching stays ahead -/

/-- The block that batching grows compares with the one that another cut grows, when the other cut
has made `spare` blocks more. -/
structure Ahead (limits : Limits) (block other : Block) (spare : Nat) : Prop where
  start : spare = 0 → other.start ≤ block.start
  /-- Batching reaches as far as the other cut, unless that has run into a tag that is too wide. -/
  stop : other.length ≤ limits.maxSpan → other.stop ≤ block.stop
  short : other.length ≤ limits.maxSpan → block.length ≤ limits.maxSpan

namespace Ahead

variable {limits : Limits} {block other : Block} {tag : Tag} {spare : Nat}

theorem refl (limits : Limits) (block : Block) (spare : Nat) : Ahead limits block block spare :=
  ⟨fun _ => Int.le_refl _, fun _ => Int.le_refl _, fun fits => fits⟩

theorem join (ahead : Ahead limits block other spare) (admitted : block.admits limits tag = true) :
    Ahead limits (block.join tag) (other.join tag) spare := by
  refine ⟨ahead.start, ?_, fun _ => Block.join_length_le admitted⟩
  intro fits
  have dominated := ahead.stop (Int.le_trans (Block.length_le_join_length other tag) fits)
  rw [Block.join_stop, Block.join_stop]
  omega

/-- Batching joins where the other cut splits, and has one more block to spare. -/
theorem split (admitted : block.admits limits tag = true) :
    Ahead limits (block.join tag) (Block.single tag) (spare + 1) := by
  refine ⟨?_, ?_, fun _ => Block.join_length_le admitted⟩
  · intro none
    cases none
  · intro _
    rw [Block.join_stop, Block.single_stop]
    exact Int.le_max_right _ _

/-- Batching splits where the other cut joins only if it has a block to spare: then the tag ends
behind everything that the other cut holds. -/
theorem spend (ahead : Ahead limits block other spare) (later : other.start ≤ tag.address)
    (admitted : other.admits limits tag = true) (refused : ¬block.admits limits tag = true) :
    ∃ fewer, spare = fewer + 1 ∧ Ahead limits (Block.single tag) (other.join tag) fewer := by
  have joinedFits := Block.join_length_le admitted
  have otherFits := Int.le_trans (Block.length_le_join_length other tag) joinedFits
  have dominated := ahead.stop otherFits
  have blockFits := ahead.short otherFits
  rw [Block.admits_eq_true_iff] at admitted
  rw [Block.admits_ne_true_iff] at refused
  -- The hole is no reason to refuse the tag, since the other cut reaches no farther and takes it.
  -- So it is the span, and the tag ends behind the block, which keeps the span itself.
  have beyond : limits.maxSpan < tag.stop - block.start := by
    simp only [Block.stop] at dominated admitted refused
    omega
  cases spare with
  | zero =>
      have starts := ahead.start rfl
      omega
  | succ fewer =>
      refine ⟨fewer, rfl, fun _ => later, ?_, ?_⟩
      · intro _
        rw [Block.join_stop, Block.single_stop]
        simp only [Block.stop] at dominated ⊢
        omega
      · intro _
        simp only [Block.single, Tag.stop] at admitted ⊢
        omega

end Ahead

/-- Batching makes no more blocks than another cut of the same tags. -/
theorem grow_length_le {limits : Limits} {other : Block} {tags : List Tag} {count : Nat}
    (cuts : Cuts limits other tags count) {block : Block} {spare : Nat}
    (ahead : Ahead limits block other spare) (later : ∀ tag ∈ tags, other.start ≤ tag.address)
    (sorted : tags.Pairwise fun left right => left.address ≤ right.address) :
    (grow limits block tags).length ≤ count + spare := by
  -- Along the other cut: `spare` is the number of blocks by which it has overtaken batching.
  induction cuts generalizing block spare with
  | done other =>
      rw [grow, List.length_singleton]
      omega
  | @join other tag rest count admitted cuts ih =>
      rw [List.forall_mem_cons] at later
      rw [List.pairwise_cons] at sorted
      unfold grow
      split
      · next joined => exact ih (ahead.join joined) later.2 sorted.2
      · next refused =>
          obtain ⟨fewer, rfl, next⟩ := ahead.spend later.1 admitted refused
          have rest := ih next later.2 sorted.2
          rw [List.length_cons]
          omega
  | @split other tag rest count cuts ih =>
      rw [List.pairwise_cons] at sorted
      have behind : ∀ next ∈ rest, (Block.single tag).start ≤ next.address := fun next member =>
        Int.ofNat_le.mpr (sorted.1 next member)
      unfold grow
      split
      · next joined =>
          have next : Ahead limits (block.join tag) (Block.single tag) (spare + 1) := .split joined
          have rest := ih next behind sorted.2
          omega
      · have rest := ih (Ahead.refl limits (Block.single tag) spare) behind sorted.2
        rw [List.length_cons]
        omega

theorem batch_length_le {limits : Limits} {tags : List Tag} {runs : List (List Tag)}
    (cut : FeasibleCut limits tags runs) : (batch limits tags).length ≤ runs.length := by
  have joined := cut.sorted.eq_sortTags
  have sorted := cut.sorted.ascending
  have filled := cut.filled
  have feasible := cut.feasible
  rw [batch, ← joined]
  cases runs with
  | nil => exact Nat.le_refl _
  | cons run runs =>
      rw [List.forall_mem_cons] at filled
      cases run with
      | nil => exact absurd rfl filled.1
      | cons first later =>
          rw [List.flatten_cons, List.cons_append, List.pairwise_cons] at sorted
          apply grow_length_le (cuts_of_runs filled.2 feasible) (Ahead.refl limits _ 0) _ sorted.2
          intro tag member
          exact Int.ofNat_le.mpr (sorted.1 tag member)

/-- The runs of the blocks of a batch are a feasible cut. -/
theorem batch_feasibleCut (limits : Limits) {table : TableKind} {tags : List Tag}
    (tables : ∀ tag ∈ tags, tag.table = table) :
    FeasibleCut limits tags ((batch limits tags).map Block.tags) := by
  have partition := batch_partition limits tables
  constructor
  · rw [← List.flatMap_def]
    exact partition.tags
  · intro run member
    obtain ⟨block, blockMember, rfl⟩ := List.mem_map.mp member
    exact partition.filled block blockMember
  · intro run member
    obtain ⟨block, blockMember, rfl⟩ := List.mem_map.mp member
    exact (batch_grown limits tags block blockMember).feasible

/-- Blocks cut the tags feasibly and as seldom as possible. -/
structure Fewest (limits : Limits) (tags : List Tag) (blocks : List Block) : Prop where
  feasible : FeasibleCut limits tags (blocks.map Block.tags)
  fewest : ∀ runs, FeasibleCut limits tags runs → blocks.length ≤ runs.length
  /-- Wider limits never need more blocks. -/
  wider : ∀ wider : Limits, limits.maxGap ≤ wider.maxGap → limits.maxSpan ≤ wider.maxSpan →
    ∃ others, optimize wider tags = .ok others ∧ others.length ≤ blocks.length

/-- Batching cuts the tags of one table into the fewest blocks. -/
theorem optimize_fewest (limits : Limits) {table : TableKind} {tags : List Tag}
    (tables : ∀ tag ∈ tags, tag.table = table) :
    ∃ blocks, optimize limits tags = .ok blocks ∧ Fewest limits tags blocks := by
  have cut := batch_feasibleCut limits tables
  refine ⟨batch limits tags, optimize_of_table limits tables, cut, ?_, ?_⟩
  · intro runs other
    exact batch_length_le other
  · intro wider gap span
    refine ⟨batch wider tags, optimize_of_table wider tables, ?_⟩
    have fewer := batch_length_le (cut.widen gap span)
    rw [List.length_map] at fewer
    exact fewer

/-! ## A bridged hole

The hole between the last two tags is too wide for them alone; the first tag bridges it. -/

/-- A long tag, a short one inside it and one behind it. -/
def bridgedTags : List Tag := [textTag "Long" 0 9, textTag "Short" 1 0, textTag "Next" 14 0]

/-- Their blocks if a hole of five and a span of fourteen registers are read. -/
def bridgedBlocks : List Block := [
  ⟨.holdingRegister, 0, 10, [textTag "Long" 0 9, textTag "Short" 1 0]⟩,
  ⟨.holdingRegister, 14, 1, [textTag "Next" 14 0]⟩]

theorem bridgedTags_fewest :
    (∀ tag ∈ bridgedTags, tag.table = .holdingRegister) ∧
      optimize ⟨5, 14⟩ bridgedTags = .ok bridgedBlocks ∧
      Fewest ⟨5, 14⟩ bridgedTags bridgedBlocks := by
  have tables : ∀ tag ∈ bridgedTags, tag.table = .holdingRegister := by decide
  have sorted : sortTags bridgedTags = bridgedTags := List.mergeSort_of_pairwise (by decide)
  have evaluated : optimize ⟨5, 14⟩ bridgedTags = .ok bridgedBlocks := by
    rw [optimize_of_table ⟨5, 14⟩ tables, batch, sorted]
    exact congrArg Except.ok (by decide)
  obtain ⟨blocks, batched, fewest⟩ := optimize_fewest ⟨5, 14⟩ tables
  obtain rfl : bridgedBlocks = blocks := Except.ok.inj (evaluated.symm.trans batched)
  exact ⟨tables, evaluated, fewest⟩

end Batching

end PointTable
