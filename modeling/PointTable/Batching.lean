import PointTable.Block
import PointTable.Event

/-!
# Batching

Tags of one table are read in few requests. They are taken in ascending order of address, and a tag
joins the block before it while the hole between them and the span of the grown block stay within
the limits. A tag that alone exceeds the span is read in a block of its own.
-/

namespace PointTable

/-- What keeps two tags out of one request. -/
structure Limits where
  /-- The largest hole that is read along. -/
  maxGap : Int
  /-- The largest span of one read. -/
  maxSpan : Int
  deriving DecidableEq, Repr

namespace Block

def single (tag : Tag) : Block :=
  ⟨tag.table, tag.address, tag.registerLength, [tag]⟩

@[simp] theorem single_table (tag : Tag) : (single tag).table = tag.table := rfl

@[simp] theorem single_start (tag : Tag) : (single tag).start = tag.address := rfl

@[simp] theorem single_tags (tag : Tag) : (single tag).tags = [tag] := rfl

@[simp] theorem single_stop (tag : Tag) : (single tag).stop = tag.stop := by
  simp [stop, single, Tag.stop]

/-- The length of a block after it has grown to hold a tag. -/
def grownLength (block : Block) (tag : Tag) : Int :=
  max block.length (tag.stop - block.start)

theorem grownLength_eq (block : Block) (tag : Tag) :
    block.grownLength tag = max block.stop tag.stop - block.start := by
  simp only [grownLength, stop]
  omega

/-- A tag may join a block. -/
def admits (limits : Limits) (block : Block) (tag : Tag) : Bool :=
  tag.address - block.stop ≤ limits.maxGap && block.grownLength tag ≤ limits.maxSpan

@[simp] theorem admits_eq_true_iff {limits : Limits} {block : Block} {tag : Tag} :
    block.admits limits tag = true ↔
      tag.address - block.stop ≤ limits.maxGap ∧
        max block.stop tag.stop - block.start ≤ limits.maxSpan := by
  rw [admits, grownLength_eq, Bool.and_eq_true, decide_eq_true_eq, decide_eq_true_eq]

def join (block : Block) (tag : Tag) : Block :=
  { block with length := block.grownLength tag, tags := block.tags ++ [tag] }

@[simp] theorem join_table (block : Block) (tag : Tag) : (block.join tag).table = block.table := rfl

@[simp] theorem join_start (block : Block) (tag : Tag) : (block.join tag).start = block.start := rfl

@[simp] theorem join_tags (block : Block) (tag : Tag) :
    (block.join tag).tags = block.tags ++ [tag] := rfl

@[simp] theorem join_stop (block : Block) (tag : Tag) :
    (block.join tag).stop = max block.stop tag.stop := by
  simp only [stop, join, grownLength]
  omega

end Block

namespace Batching

/-- The tags in ascending order of address; tags of one address keep their order. -/
def sortTags (tags : List Tag) : List Tag :=
  tags.mergeSort fun a b => a.address ≤ b.address

/-- Cut the tags that follow a block into blocks, the first of which grows from that block. -/
def grow (limits : Limits) (block : Block) : List Tag → List Block
  | [] => [block]
  | tag :: rest =>
    if block.admits limits tag then grow limits (block.join tag) rest
    else block :: grow limits (Block.single tag) rest

@[simp] theorem grow_flatMap_tags (limits : Limits) (block : Block) (tags : List Tag) :
    (grow limits block tags).flatMap Block.tags = block.tags ++ tags := by
  induction tags generalizing block with
  | nil => simp [grow]
  | cons tag rest ih =>
      unfold grow
      split
      · rw [ih]
        simp [Block.join]
      · rw [List.flatMap_cons, ih]
        simp [Block.single]

/-- Cut tags into blocks in the order given. -/
def cut (limits : Limits) : List Tag → List Block
  | [] => []
  | tag :: rest => grow limits (Block.single tag) rest

@[simp] theorem cut_flatMap_tags (limits : Limits) (tags : List Tag) :
    (cut limits tags).flatMap Block.tags = tags := by
  cases tags with
  | nil => rfl
  | cons tag rest => exact grow_flatMap_tags limits (Block.single tag) rest

/-- The blocks that read tags of one table. -/
def batch (limits : Limits) (tags : List Tag) : List Block :=
  cut limits (sortTags tags)

@[simp] theorem batch_nil (limits : Limits) : batch limits [] = [] := by
  simp [batch, sortTags, cut]

@[simp] theorem batch_flatMap_tags (limits : Limits) (tags : List Tag) :
    (batch limits tags).flatMap Block.tags = sortTags tags :=
  cut_flatMap_tags limits (sortTags tags)

/-- Tags of both tables were given for one batch. -/
inductive Fault where
  | mixedTables
  deriving DecidableEq, Repr

def Fault.message : Fault → String
  | .mixedTables => "Coil and register tags must be optimized separately"

def oneTable : List Tag → Bool
  | [] => true
  | tag :: rest => rest.all (·.table = tag.table)

/-- The blocks that read some tags, which must be of one table. -/
def optimize (limits : Limits) (tags : List Tag) : Except Fault (List Block) :=
  if oneTable tags then .ok (batch limits tags) else .error .mixedTables

/-- A warning for every block beyond the limit; such a block holds one tag. -/
def oversized (limits : Limits) (blocks : List Block) : List Event :=
  blocks.filterMap fun block =>
    if limits.maxSpan < block.length then
      block.tags.head?.map fun tag =>
        .oversizedBlock block.table block.start block.length limits.maxSpan tag.name
    else none

/-- The events of batching tags of one table; no tags cause none. -/
def batchEvents (limits : Limits) (tags : List Tag) : List Event :=
  match tags with
  | [] => []
  | tag :: _ =>
    let blocks := batch limits tags
    oversized limits blocks ++ [.tagsBatched tag.table tags.length blocks.length]

def tagsOf (table : TableKind) (tags : List Tag) : List Tag :=
  tags.filter (·.table = table)

/-- The blocks of every table that has tags, coils first. -/
def plan (limits : Limits) (tags : List Tag) : List (TableKind × List Block) :=
  (TableKind.all.filter fun table => !(tagsOf table tags).isEmpty).map fun table =>
    (table, batch limits (tagsOf table tags))

/-- The events of planning tags of both tables. -/
def planEvents (limits : Limits) (tags : List Tag) : List Event :=
  TableKind.all.flatMap fun table => batchEvents limits (tagsOf table tags)

end Batching

end PointTable
