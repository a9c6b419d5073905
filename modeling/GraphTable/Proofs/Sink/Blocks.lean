import GraphTable.Proofs.Sink.Rows

/-!
# Blocks of a block sink

Whatever a new block sink is asked to do, the rows that it accepts are cut into
blocks of its size, each numbered by its first row.  Only a close seals a block
that is not full, and behind a close nothing is accepted any more.
-/

namespace GraphTable

/-- Blocks hold rows in order, the same number in each but the last, which may
hold fewer, and each knows the number of its first row. -/
structure Cuts (size : Nat) (rows : List Row) (blocks : List Block) : Prop where
  rows_eq : blocks.flatMap Block.rows = rows
  firstRow_eq : ∀ (index : Nat) (block : Block),
    blocks[index]? = some block → block.firstRow = index * size
  full : ∀ (index : Nat) (block : Block), blocks[index]? = some block →
    index + 1 < blocks.length → block.rows.length = size
  nonempty : ∀ block ∈ blocks, 0 < block.rows.length
  fits : ∀ block ∈ blocks, block.rows.length ≤ size

namespace Cuts

variable {size index : Nat} {rows more : List Row} {block : Block}
  {blocks others : List Block}

theorem nil (size : Nat) : Cuts size [] [] := by
  constructor <;> simp

theorem length_of_full (full : ∀ block ∈ blocks, block.rows.length = size) :
    (blocks.flatMap Block.rows).length = blocks.length * size := by
  rw [List.length_flatMap, List.map_congr_left full, List.map_const',
    List.sum_replicate_nat]

theorem length_of_fits (fits : ∀ block ∈ blocks, block.rows.length ≤ size) :
    (blocks.flatMap Block.rows).length ≤ blocks.length * size := by
  induction blocks with
  | nil => simp
  | cons block blocks ih =>
      have first := fits block List.mem_cons_self
      have others := ih fun other mem => fits other (List.mem_cons_of_mem _ mem)
      rw [List.flatMap_cons, List.length_append, List.length_cons,
        Nat.succ_mul]
      omega

/-- Behind full blocks one more block can be cut. -/
theorem concat
    (cuts : Cuts size (blocks.flatMap Block.rows) blocks)
    (full : ∀ block ∈ blocks, block.rows.length = size)
    (firstRow_eq : block.firstRow = (blocks.flatMap Block.rows).length)
    (nonempty : 0 < block.rows.length) (fits : block.rows.length ≤ size) :
    Cuts size ((blocks ++ [block]).flatMap Block.rows) (blocks ++ [block]) := by
  constructor
  · rfl
  · intro index other found
    rw [List.getElem?_append] at found
    split at found
    · exact cuts.firstRow_eq index other found
    · obtain rfl : index = blocks.length := by grind
      rw [Nat.sub_self] at found
      cases found
      rw [firstRow_eq, length_of_full full]
  · intro index other found notLast
    rw [List.length_append, List.length_singleton] at notLast
    rw [List.getElem?_append_left (by omega)] at found
    exact full other (List.mem_of_getElem? found)
  · simpa [or_imp, forall_and, nonempty] using cuts.nonempty
  · simpa [or_imp, forall_and, fits] using cuts.fits

/-- The rows from the first one of a block on are those of the block and of the
blocks behind it. -/
theorem drop_eq (cuts : Cuts size rows blocks)
    (found : blocks[index]? = some block) :
    rows.drop (index * size) =
      block.rows ++ (blocks.drop (index + 1)).flatMap Block.rows := by
  obtain ⟨within, here⟩ := List.getElem?_eq_some_iff.mp found
  have before : ∀ other ∈ blocks.take index, other.rows.length = size := by
    intro other mem
    obtain ⟨place, stands⟩ := List.getElem?_of_mem mem
    have earlier : place < index := by grind
    rw [List.getElem?_take_of_lt earlier] at stands
    exact cuts.full place other stands (by omega)
  have length : ((blocks.take index).flatMap Block.rows).length =
      index * size := by
    rw [length_of_full before, List.length_take_of_le (by omega)]
  calc
    rows.drop (index * size) =
        ((blocks.take index ++ blocks.drop index).flatMap Block.rows).drop
          (index * size) := by
      rw [List.take_append_drop, cuts.rows_eq]
    _ = (blocks.drop index).flatMap Block.rows := by
      rw [List.flatMap_append, List.drop_left' length]
    _ = block.rows ++ (blocks.drop (index + 1)).flatMap Block.rows := by
      rw [List.drop_eq_getElem_cons within, here, List.flatMap_cons]

theorem block_eq (cuts : Cuts size rows blocks)
    (found : blocks[index]? = some block) :
    block = ⟨index * size, (rows.drop (index * size)).take size⟩ := by
  have sameRows : (rows.drop (index * size)).take size = block.rows := by
    rw [cuts.drop_eq found]
    by_cases notLast : index + 1 < blocks.length
    · exact List.take_left' (cuts.full index block found notLast)
    · rw [List.drop_of_length_le (by omega), List.flatMap_nil,
        List.append_nil]
      exact List.take_of_length_le
        (cuts.fits block (List.mem_of_getElem? found))
  rw [sameRows, ← cuts.firstRow_eq index block found]

theorem index_lt_iff (cuts : Cuts size rows blocks) (index : Nat) :
    index < blocks.length ↔ index * size < rows.length := by
  constructor
  · intro within
    have found := List.getElem?_eq_getElem within
    have positive := cuts.nonempty _ (List.mem_of_getElem? found)
    have length := congrArg List.length (cuts.drop_eq found)
    rw [List.length_drop, List.length_append] at length
    omega
  · intro within
    have total := length_of_fits cuts.fits
    rw [cuts.rows_eq] at total
    exact Nat.lt_of_mul_lt_mul_right (Nat.lt_of_lt_of_le within total)

/-- Rows can be cut in one way only. -/
theorem unique (cuts : Cuts size rows blocks) (alike : Cuts size rows others) :
    blocks = others := by
  have length : blocks.length = others.length := by
    have firstEnd := cuts.index_lt_iff blocks.length
    have secondEnd := alike.index_lt_iff others.length
    have firstBeyond := cuts.index_lt_iff others.length
    have secondBeyond := alike.index_lt_iff blocks.length
    omega
  refine List.ext_getElem length fun index first second => ?_
  rw [cuts.block_eq (List.getElem?_eq_getElem first),
    alike.block_eq (List.getElem?_eq_getElem second)]

end Cuts

/-- What a sink is asked to do. -/
inductive SinkCall where
  | write (candidate : Option Row)
  | close

/-- The candidates that are offered before the first close. -/
def SinkCall.offered : List SinkCall → List (Option Row)
  | .write candidate :: calls => candidate :: offered calls
  | .close :: _ => []
  | [] => []

namespace BlockSink

def serve (sink : BlockSink) : SinkCall → BlockSink
  | .write candidate => (sink.offer candidate).2
  | .close => sink.close

/-- The row that a call adds: the one that is offered, unless the sink refuses
it. -/
def accepted? (sink : BlockSink) : SinkCall → Option Row
  | .write candidate =>
      match (sink.offer candidate).1 with
      | .ok _ => candidate
      | .error _ => none
  | .close => none

def serveAll (sink : BlockSink) (calls : List SinkCall) : BlockSink :=
  calls.foldl serve sink

/-- The rows that calls add. -/
def accepted (sink : BlockSink) : List SinkCall → List Row
  | [] => []
  | call :: calls =>
      (sink.accepted? call).toList ++ (sink.serve call).accepted calls

variable {size : Nat} {sink : BlockSink} {calls : List SinkCall}

/-- What holds of a sink for blocks of a size at every time.  An open sink has
sealed only full blocks; a closed one has no open rows. -/
structure Sound (size : Nat) (sink : BlockSink) : Prop where
  size_eq : sink.blockSize = size
  cuts : Cuts size (sink.sealedBlocks.flatMap Block.rows) sink.sealedBlocks
  short : sink.current.rows.length < size
  firstRow_eq : sink.current.firstRow =
    (sink.sealedBlocks.flatMap Block.rows).length
  written_eq : sink.rowsWritten = sink.rows.length
  full : sink.isClosed = false →
    ∀ block ∈ sink.sealedBlocks, block.rows.length = size
  done : sink.isClosed = true → sink.current.rows = []

theorem sound_new (blockSize : Nat) :
    (new blockSize).Sound (max blockSize 1) where
  size_eq := rfl
  cuts := Cuts.nil _
  short := Nat.lt_of_lt_of_le Nat.zero_lt_one (Nat.le_max_right _ _)
  firstRow_eq := rfl
  written_eq := rfl
  full := by simp [new]
  done := by simp [new]

theorem sealCurrent_of_empty (empty : sink.current.rows = []) :
    sink.sealCurrent = sink := by
  simp [sealCurrent, empty]

theorem sealCurrent_of_some (some : sink.current.rows ≠ []) :
    sink.sealCurrent =
      { sink with
        current := ⟨sink.rowsWritten, []⟩
        sealedBlocks := sink.sealedBlocks ++ [sink.current] } := by
  simp [sealCurrent, some]

/-- An open sink whose open block is not empty. -/
theorem Sound.isOpen_of_some (sound : sink.Sound size)
    (some : sink.current.rows ≠ []) : sink.isClosed = false := by
  cases closed : sink.isClosed with
  | false => rfl
  | true => exact absurd (sound.done closed) some

/-- Sealing the open block leaves the rows cut into blocks. -/
theorem Sound.cuts_blocks (sound : sink.Sound size) :
    Cuts size sink.rows sink.blocks := by
  rw [← sealCurrent_rows]
  by_cases empty : sink.current.rows = []
  · rw [blocks, sealCurrent_of_empty empty, rows, empty, List.append_nil]
    exact sound.cuts
  · have sealedCuts := sound.cuts.concat
      (sound.full (sound.isOpen_of_some empty)) sound.firstRow_eq
      (List.length_pos_iff.mpr empty) (Nat.le_of_lt sound.short)
    rw [blocks, sealCurrent_of_some empty, rows, List.append_nil]
    exact sealedCuts

theorem Sound.close (sound : sink.Sound size) : sink.close.Sound size := by
  have positive : 0 < size := Nat.lt_of_le_of_lt (Nat.zero_le _) sound.short
  have written := sound.written_eq
  rw [← sealCurrent_rows] at written
  have cuts := sound.cuts_blocks
  rw [← cuts.rows_eq] at cuts
  unfold BlockSink.close
  by_cases empty : sink.current.rows = []
  · rw [sealCurrent_of_empty empty] at written ⊢
    refine ⟨sound.size_eq, sound.cuts, sound.short, sound.firstRow_eq, written,
      ?_, fun _ => empty⟩
    intro isOpen
    cases isOpen
  · rw [blocks, sealCurrent_of_some empty] at cuts
    rw [sealCurrent_of_some empty] at written ⊢
    have total := written
    rw [rows, List.append_nil] at total
    refine ⟨sound.size_eq, cuts, positive, total, written, ?_, fun _ => rfl⟩
    intro isOpen
    cases isOpen

theorem Sound.count (sound : sink.Sound size) : sink.count.Sound size :=
  ⟨sound.size_eq, sound.cuts, sound.short, sound.firstRow_eq, sound.written_eq,
    sound.full, sound.done⟩

theorem accept_of_full {row : Row}
    (isFull : sink.blockSize ≤ (sink.current.rows ++ [row]).length) :
    sink.accept row =
      { sink with
        current := ⟨sink.rowsWritten + 1, []⟩
        sealedBlocks := sink.sealedBlocks ++
          [⟨sink.current.firstRow, sink.current.rows ++ [row]⟩]
        rowsWritten := sink.rowsWritten + 1 } := by
  unfold accept
  rw [if_pos isFull, sealCurrent_of_some (by simp)]

theorem accept_of_short {row : Row}
    (isShort : (sink.current.rows ++ [row]).length < sink.blockSize) :
    sink.accept row =
      { sink with
        current := ⟨sink.current.firstRow, sink.current.rows ++ [row]⟩
        rowsWritten := sink.rowsWritten + 1 } := by
  unfold accept
  rw [if_neg (Nat.not_le_of_lt isShort)]

theorem Sound.accept (sound : sink.Sound size) (isOpen : sink.isClosed = false)
    (row : Row) : (sink.accept row).Sound size := by
  have short := sound.short
  have length : (sink.current.rows ++ [row]).length =
      sink.current.rows.length + 1 :=
    List.length_append
  have written : (sink.accept row).rowsWritten =
      (sink.accept row).rows.length := by
    rw [(accept_counts sink row).1, accept_rows, List.length_append,
      sound.written_eq]
    rfl
  obtain rfl := sound.size_eq
  rcases Nat.lt_or_ge (sink.current.rows ++ [row]).length sink.blockSize with
    isShort | isFull
  · rw [accept_of_short isShort] at written ⊢
    exact ⟨rfl, sound.cuts, isShort, sound.firstRow_eq, written, sound.full,
      fun closed => absurd (isOpen.symm.trans closed) nofun⟩
  · -- The block that is sealed holds exactly as many rows as a block may hold.
    let sealedBlock : Block :=
      ⟨sink.current.firstRow, sink.current.rows ++ [row]⟩
    have exactly : sealedBlock.rows.length = sink.blockSize :=
      Nat.le_antisymm (Nat.le_trans (Nat.le_of_eq length) short) isFull
    have positive : 0 < sink.blockSize := by omega
    have cuts := sound.cuts.concat (sound.full isOpen)
      (show sealedBlock.firstRow = _ from sound.firstRow_eq)
      (Nat.lt_of_lt_of_eq positive exactly.symm) (Nat.le_of_eq exactly)
    rw [accept_of_full isFull] at written ⊢
    have total := written
    rw [rows, List.append_nil] at total
    refine ⟨rfl, cuts, positive, total, written, fun _ => ?_, fun _ => rfl⟩
    simpa [or_imp, forall_and, ← exactly, sealedBlock] using sound.full isOpen

theorem Sound.offer (sound : sink.Sound size) (candidate : Option Row) :
    (sink.offer candidate).2.Sound size := by
  unfold BlockSink.offer
  split
  next closed => exact sound
  next isOpen =>
    cases candidate with
    | none => exact sound.count
    | some row =>
        exact sound.count.accept (Bool.eq_false_iff.mpr isOpen) row

/-- Every sink that calls lead to is sound. -/
theorem Sound.serveAll (sound : sink.Sound size) (calls : List SinkCall) :
    (sink.serveAll calls).Sound size := by
  induction calls generalizing sink with
  | nil => exact sound
  | cons call calls ih =>
      cases call with
      | write candidate => exact ih (sound.offer candidate)
      | close => exact ih sound.close

theorem offer_of_closed (closed : sink.isClosed = true)
    (candidate : Option Row) :
    sink.offer candidate = (.error (.closed sink.rowsWritten), sink) := by
  unfold offer
  rw [if_pos closed]

theorem serve_rows (sink : BlockSink) (call : SinkCall) :
    (sink.serve call).rows = sink.rows ++ (sink.accepted? call).toList := by
  cases call with
  | close =>
      rw [accepted?, Option.toList_none, List.append_nil]
      exact sink.sealCurrent_rows
  | write candidate =>
      simp only [serve, accepted?]
      cases closed : sink.isClosed with
      | true => simp [offer_of_closed closed]
      | false =>
          obtain ⟨after, answered, took⟩ := offer_took closed candidate
          rw [answered]
          cases candidate <;> exact took.rows

/-- The rows that calls add are those that the sink then holds. -/
theorem serveAll_rows (sink : BlockSink) (calls : List SinkCall) :
    (sink.serveAll calls).rows = sink.rows ++ sink.accepted calls := by
  induction calls generalizing sink with
  | nil => simp [serveAll, accepted]
  | cons call calls ih =>
      have later := ih (sink.serve call)
      rw [serve_rows, List.append_assoc] at later
      exact later

theorem close_counts (sink : BlockSink) :
    sink.close.candidates = sink.candidates ∧ sink.close.isClosed = true :=
  ⟨sink.sealCurrent_counts.2.1, rfl⟩

/-- A closed sink adds no row and counts no candidate, whatever it is asked. -/
theorem serveAll_of_closed (closed : sink.isClosed = true)
    (calls : List SinkCall) :
    sink.accepted calls = [] ∧
      (sink.serveAll calls).candidates = sink.candidates := by
  induction calls generalizing sink with
  | nil => exact ⟨rfl, rfl⟩
  | cons call calls ih =>
      cases call with
      | write candidate =>
          have refused := offer_of_closed closed candidate
          have same : sink.serve (.write candidate) = sink := by
            rw [serve, refused]
          obtain ⟨rows, candidates⟩ := ih closed
          refine ⟨?_, ?_⟩
          · rw [accepted, same, rows, accepted?, refused]
            rfl
          · rw [serveAll, List.foldl_cons, same]
            exact candidates
      | close =>
          obtain ⟨counted, isClosed⟩ := sink.close_counts
          obtain ⟨rows, candidates⟩ := ih isClosed
          exact ⟨rows, candidates.trans counted⟩

/-- An open sink takes all candidates before the first close. -/
theorem serveAll_of_open (isOpen : sink.isClosed = false)
    (calls : List SinkCall) :
    sink.accepted calls = (SinkCall.offered calls).filterMap id ∧
      (sink.serveAll calls).candidates =
        sink.candidates + (SinkCall.offered calls).length := by
  induction calls generalizing sink with
  | nil => exact ⟨rfl, rfl⟩
  | cons call calls ih =>
      cases call with
      | write candidate =>
          obtain ⟨after, answered, took⟩ := offer_took isOpen candidate
          have next : sink.serve (.write candidate) = after := by
            rw [serve, answered]
          obtain ⟨rows, candidates⟩ := ih took.isOpen
          refine ⟨?_, ?_⟩
          · rw [accepted, next, rows, accepted?, answered]
            cases candidate <;> rfl
          · rw [serveAll, List.foldl_cons, next]
            exact candidates.trans (by
              rw [took.counted, List.length_singleton, SinkCall.offered,
                List.length_cons]
              omega)
      | close =>
          obtain ⟨counted, isClosed⟩ := sink.close_counts
          obtain ⟨rows, candidates⟩ := serveAll_of_closed isClosed calls
          exact ⟨rows, candidates.trans counted⟩

theorem serveAll_took (isOpen : sink.isClosed = false)
    (candidates : List (Option Row)) :
    sink.Took candidates (sink.serveAll (candidates.map .write)) := by
  induction candidates generalizing sink with
  | nil => exact .nil isOpen
  | cons candidate candidates ih =>
      obtain ⟨after, answered, took⟩ := offer_took isOpen candidate
      have next : sink.serve (.write candidate) = after := by
        rw [serve, answered]
      rw [List.map_cons, serveAll, List.foldl_cons, next]
      exact took.append (ih took.isOpen)

theorem serve_isClosed (sink : BlockSink) (call : SinkCall) :
    (sink.serve call).isClosed = true →
      sink.isClosed = true ∨ call = .close := by
  cases call with
  | close => exact fun _ => .inr rfl
  | write candidate =>
      intro closed
      cases before : sink.isClosed with
      | true => exact .inl rfl
      | false =>
          obtain ⟨after, answered, took⟩ := offer_took before candidate
          rw [serve, answered, took.isOpen] at closed
          cases closed

theorem close_mem_of_closed {sink : BlockSink} (isOpen : sink.isClosed = false)
    (closed : (sink.serveAll calls).isClosed = true) :
    .close ∈ calls := by
  induction calls generalizing sink with
  | nil => exact absurd (isOpen.symm.trans closed) nofun
  | cons call calls ih =>
      cases next : (sink.serve call).isClosed with
      | false => exact List.mem_cons_of_mem _ (ih next closed)
      | true =>
          rcases serve_isClosed sink call next with before | isClose
          · exact absurd (isOpen.symm.trans before) nofun
          · exact isClose ▸ List.mem_cons_self

/-- Whatever a new sink is asked to do, its rows are those that were offered
before the first close, and its blocks are the one way to cut them.  All counts
are right at any time, and every sealed block is full, unless it is the last one
and the sink was closed. -/
theorem blocks_of_calls (blockSize : Nat) (calls : List SinkCall) :
    let size := max blockSize 1
    let rows := (new blockSize).accepted calls
    let sink := (new blockSize).serveAll calls
    (rows = (SinkCall.offered calls).filterMap id ∧
      (∀ blocks, Cuts size rows blocks ↔ blocks = sink.blocks)) ∧
    (sink.rows = rows ∧ sink.rowsWritten = rows.length ∧
      sink.candidates = (SinkCall.offered calls).length) ∧
    (sink.current.rows.length < size ∧
      sink.current.firstRow + sink.current.rows.length = sink.rowsWritten) ∧
    ∀ (index : Nat) (block : Block), sink.sealedBlocks[index]? = some block →
      block.rows.length = size ∨
        (block.rows.length < size ∧ index + 1 = sink.sealedBlocks.length ∧
          .close ∈ calls) := by
  intro size rows sink
  have sound : sink.Sound size := (sound_new blockSize).serveAll calls
  have isOpen : (new blockSize).isClosed = false := rfl
  obtain ⟨offered, candidates⟩ := serveAll_of_open isOpen calls
  have held : sink.rows = rows := serveAll_rows (new blockSize) calls
  have cuts : Cuts size rows sink.blocks := held ▸ sound.cuts_blocks
  refine ⟨⟨offered, fun blocks => ⟨fun alike => alike.unique cuts, ?_⟩⟩,
    ⟨held, held ▸ sound.written_eq, candidates.trans (Nat.zero_add _)⟩,
    ⟨sound.short, ?_⟩, ?_⟩
  · rintro rfl
    exact cuts
  · rw [sound.firstRow_eq, sound.written_eq, BlockSink.rows,
      List.length_append]
  · intro index block found
    have mem := List.mem_of_getElem? found
    cases closed : sink.isClosed with
    | false => exact .inl (sound.full closed block mem)
    | true =>
        rcases Nat.lt_or_ge block.rows.length size with isShort | isFull
        · have last : ¬index + 1 < sink.sealedBlocks.length := fun notLast =>
            Nat.ne_of_lt isShort (sound.cuts.full index block found notLast)
          have within := (List.getElem?_eq_some_iff.mp found).1
          exact .inr ⟨isShort, by omega, close_mem_of_closed isOpen closed⟩
        · exact .inl (Nat.le_antisymm (sound.cuts.fits block mem) isFull)

end BlockSink

end GraphTable
