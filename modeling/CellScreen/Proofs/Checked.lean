import CellScreen.Proofs.Copies
import CellScreen.Proofs.PendingCalls

/-! Recordings and flushes that check every look-up. They fail as soon as something outside a table
is read or written. On the grid of a consistent display they never fail, and give what the
recordings and flushes without checks give. -/
namespace CellScreen

private theorem foldlM_eq_some {σ α : Type} {step? : σ → α → Option σ} {step : σ → α → σ}
    {p : σ → Prop} {entries : List α} (each : ∀ state, p state → ∀ entry ∈ entries,
      step? state entry = some (step state entry) ∧ p (step state entry))
    {state : σ} (start : p state) :
    entries.foldlM step? state = some (entries.foldl step state) ∧
      p (entries.foldl step state) := by
  induction entries generalizing state with
  | nil => exact ⟨rfl, start⟩
  | cons first more ih =>
    obtain ⟨now, kept⟩ := each state start first (List.mem_cons_self ..)
    obtain ⟨later, finish⟩ := ih (fun state kept entry member =>
      each state kept entry (List.mem_cons_of_mem _ member)) kept
    rw [List.foldlM_cons, now, List.foldl_cons]
    exact ⟨later, finish⟩

private theorem mapM_eq_some {α β : Type} {read? : α → Option β} {read : α → β} {entries : List α}
    (each : ∀ entry ∈ entries, read? entry = some (read entry)) :
    entries.mapM read? = some (entries.map read) := by
  induction entries with
  | nil => rfl
  | cons first more ih =>
    obtain ⟨now, later⟩ := List.forall_mem_cons.mp each
    rw [List.mapM_cons, now, ih later]
    rfl

private theorem allM_eq_some {α : Type} {holds? : α → Option Bool} {holds : α → Bool}
    {entries : List α} (each : ∀ entry ∈ entries, holds? entry = some (holds entry)) :
    entries.allM holds? = some (entries.all holds) := by
  induction entries with
  | nil => rfl
  | cons first more ih =>
    obtain ⟨now, later⟩ := List.forall_mem_cons.mp each
    rw [List.allM, now, List.all_cons]
    cases holds first with
    | false => rfl
    | true => exact ih later

def Grid.set? {α : Type} (grid : Grid α) (row column : Nat) (a : α) : Option (Grid α) :=
  if row < grid.height ∧ column < grid.width then some (grid.set row column a) else none

namespace Pending

def record? (pending : Pending) (row column : Nat) (slot : Slot) : Option Pending := do
  let before ← pending.slots.get? row column
  let slots ← pending.slots.set? row column slot
  return ⟨slots, if before = .unchanged then pending.count + 1 else pending.count⟩

def recordAll? (pending : Pending) (changes : List (Nat × Nat × Slot)) : Option Pending :=
  changes.foldlM (fun pending (row, column, slot) => pending.record? row column slot) pending

private theorem record?_eq_some {pending : Pending} {row column : Nat}
    (inside : row < pending.height ∧ column < pending.width) (slot : Slot) :
    pending.record? row column slot = some (pending.record row column slot) := by
  obtain ⟨before, found⟩ : ∃ before, pending.slots.get? row column = some before :=
    Grid.exists_get? inside
  have written : pending.slots.set? row column slot = some (pending.slots.set row column slot) :=
    if_pos inside
  simp only [record?, record, found, written, Option.some.injEq]
  rfl

private theorem recordAll?_eq_some {pending : Pending} {changes : List (Nat × Nat × Slot)}
    (inside : ∀ change ∈ changes, change.1 < pending.height ∧ change.2.1 < pending.width) :
    pending.recordAll? changes = some (pending.recordAll changes) := by
  refine (foldlM_eq_some (p := fun reached =>
    reached.height = pending.height ∧ reached.width = pending.width) ?_ ⟨rfl, rfl⟩).1
  intro reached same change member
  refine ⟨record?_eq_some ?_ change.2.2, ?_⟩
  · rw [same.1, same.2]
    exact inside change member
  · rwa [height_record, width_record]

end Pending

def streak? (holds? : Nat → Option Bool) : Nat → Nat → Option Nat
  | 0, _ => some 0
  | limit + 1, first => do
    if ← holds? first then return (← streak? holds? limit (first + 1)) + 1
    else return 0

private theorem streak?_eq_some {holds? : Nat → Option Bool} {holds : Nat → Bool}
    (limit first : Nat) (each : ∀ index < first + limit, holds? index = some (holds index)) :
    streak? holds? limit first = some (streak holds limit first) := by
  induction limit generalizing first with
  | zero => rfl
  | succ limit ih =>
    rw [streak?, each first (by omega), streak]
    cases holds first with
    | false => rfl
    | true =>
      have later := @ih (first + 1) fun index below => each index (by omega)
      simp [later]

namespace Block

def grown? (width height row column : Nat) (fits? : Nat → Nat → Option Bool) : Option Block := do
  let columns := (← streak? (fits? row) (width - (column + 1)) (column + 1)) + 1
  let fitsRow? := fun below => (List.range' column columns).allM (fits? below)
  return { row, column, columns, rows := (← streak? fitsRow? (height - (row + 1)) (row + 1)) + 1 }

def write? (block : Block) (slots : Grid Slot) (slot? : Nat → Nat → Option Slot) :
    Option (Grid Slot) :=
  block.cells.foldlM (fun slots (row, column) => do slots.set? row column (← slot? row column))
    slots

private theorem grown?_eq_some {width height row column : Nat} (below : row < height)
    (inRow : column < width) {fits? : Nat → Nat → Option Bool} {fits : Nat → Nat → Bool}
    (each : ∀ r < height, ∀ c < width, fits? r c = some (fits r c)) :
    grown? width height row column fits? = some (grown width height row column fits) := by
  have columns := streak?_eq_some (width - (column + 1)) (column + 1)
    fun index inside => each row below index (by omega)
  have columns_le := streak_le (fits row) (width - (column + 1)) (column + 1)
  simp only [grown?, columns, grown]
  rw [Option.bind_eq_bind, Option.bind_some, streak?_eq_some]
  · rfl
  · intro index inside
    refine allM_eq_some fun c member => each index (by omega) c ?_
    rw [List.mem_range'_1] at member
    omega

private theorem write?_eq_some {block : Block} {slots : Grid Slot} {slot? : Nat → Nat → Option Slot}
    {slot : Nat → Nat → Slot} (each : ∀ {row column : Nat}, (row, column) ∈ block.cells →
      (row < slots.height ∧ column < slots.width) ∧ slot? row column = some (slot row column)) :
    block.write? slots slot? = some (block.write slots slot) := by
  refine (foldlM_eq_some (p := fun reached : Grid Slot =>
    reached.height = slots.height ∧ reached.width = slots.width) ?_ ⟨rfl, rfl⟩).1
  intro reached same place member
  obtain ⟨inside, read⟩ := each member
  constructor
  · simp only [read, Grid.set?, same.1, same.2, inside, and_self, if_true]
    rfl
  · rwa [Grid.height_set, Grid.width_set]

end Block

namespace Display

def resolved? (committed : Grid Cell) (slots : Grid Slot) : Option (Grid Cell) := do
  let _ ← (Grid.places committed.width committed.height).mapM fun (row, column) =>
    (slots.get? row column).bind (resolveSlot committed row column)
  return resolved committed slots

def copyBlock? (slots : Grid Slot) (row column sourceRow sourceColumn : Nat) : Option Block :=
  Block.grown? slots.width slots.height row column fun r c =>
    if sourceColumn + (c - column) < slots.width ∧ sourceRow + (r - row) < slots.height then do
      return (← slots.get? r c) == .copy (sourceRow + (r - row)) (sourceColumn + (c - column))
    else some false

def copyStep? (display : Display) (next : Grid Cell) (pass : CopyPass) (place : Nat × Nat) :
    Option CopyPass := do
  let (row, column) := place
  match ← pass.slots.get? row column with
  | .copy sourceRow sourceColumn =>
    let block ← copyBlock? pass.slots row column sourceRow sourceColumn
    let source := display.cellRect sourceRow sourceColumn block.columns block.rows
    let destination := display.cellRect row column block.columns block.rows
    if pass.copies.any (·.destination.intersects source) then
      let slots ← block.write? pass.slots fun r c => do return .set (← next.get? r c)
      return { pass with slots }
    else
      let slots ← block.write? pass.slots fun _ _ => some .unchanged
      return { slots, copies := pass.copies ++ [⟨source, destination⟩] }
  | _ => return pass

def copyPass? (display : Display) (next : Grid Cell) (slots : Grid Slot) : Option CopyPass :=
  (Grid.places slots.width slots.height).foldlM (display.copyStep? next) ⟨slots, []⟩

def fillStep? (display : Display) (pass : FillPass) (place : Nat × Nat) : Option FillPass := do
  let (row, column) := place
  match display.fillColor (← pass.slots.get? row column) with
  | some color =>
    let block ← Block.grown? pass.slots.width pass.slots.height row column fun r c => do
      return display.fillColor (← pass.slots.get? r c) == some color
    let slots ← block.write? pass.slots fun _ _ => some .unchanged
    return {
      slots
      fills := pass.fills ++ [⟨display.cellRect row column block.columns block.rows, color⟩] }
  | none => return pass

def fillPass? (display : Display) (slots : Grid Slot) : Option FillPass :=
  (Grid.places slots.width slots.height).foldlM display.fillStep? ⟨slots, []⟩

def drawnColumns? (cells : Grid Cell) (row column : Nat) (cell : Cell) : Option Nat :=
  if cell.width == 2 ∧ column + 1 < cells.width then do
    return if (← cells.get? row (column + 1)).isContinuation then 2 else 1
  else some 1

def glyphsFrom? (cells : Grid Cell) (slots : Grid Slot) (row : Nat) (attributes : Attributes) :
    Nat → Nat → Option (List Glyph)
  | 0, _ => some []
  | limit + 1, column =>
    if column < slots.width then do
      match ← slots.get? row column with
      | .set cell =>
        if cell.isContinuation || cell.attributes != attributes then return []
        else
          let columns ← drawnColumns? cells row column cell
          return ⟨cell.drawnChar, UInt8.ofNat columns⟩ ::
            (← glyphsFrom? cells slots row attributes limit (column + columns))
      | _ => return []
    else some []

def runsFrom? (display : Display) (cells : Grid Cell) (slots : Grid Slot) (row : Nat) :
    Nat → Nat → Option (List TextRun)
  | 0, _ => some []
  | limit + 1, column =>
    if column < slots.width then do
      match ← slots.get? row column with
      | .set cell =>
        if cell.isContinuation then display.runsFrom? cells slots row limit (column + 1)
        else
          let origin := display.cellRect row column 0 0
          let run : TextRun := {
            x := origin.x
            y := origin.y
            cellWidth := display.metrics.width
            cellHeight := display.metrics.height
            glyphs := ← glyphsFrom? cells slots row cell.attributes slots.width column
            style := display.glyphStyle cell.attributes }
          return run :: (← display.runsFrom? cells slots row limit (column + run.columns))
      | _ => display.runsFrom? cells slots row limit (column + 1)
    else some []

def textPass? (display : Display) (cells : Grid Cell) (slots : Grid Slot) :
    Option (List TextRun) := do
  return (← (List.range slots.height).mapM fun row =>
    display.runsFrom? cells slots row slots.width 0).flatten

def flushPlan? (display : Display) : Option FlushPlan :=
  if display.pending.isEmpty then some .nothing
  else do
    let next ← resolved? display.committed display.pending.slots
    let copied ← display.copyPass? next display.pending.slots
    let filled ← display.fillPass? copied.slots
    let runs ← display.textPass? next filled.slots
    return { copies := copied.copies, fills := filled.fills, runs, cells := display.pending.count }

variable {display : Display}

def Spans {α : Type} (display : Display) (grid : Grid α) : Prop :=
  grid.height = display.height ∧ grid.width = display.width

private theorem resolved?_eq_some (consistent : display.Consistent) :
    resolved? display.committed display.pending.slots = some display.next := by
  have each : ∀ place ∈ Grid.places display.committed.width display.committed.height,
      (display.pending.slots.get? place.1 place.2).bind
        (resolveSlot display.committed place.1 place.2) =
          some ((display.next.get? place.1 place.2).getD (.blank .default)) := by
    intro place member
    obtain ⟨slot, found⟩ := exists_slot consistent (Grid.mem_places.mp member)
    obtain ⟨cell, resolves⟩ := exists_resolveSlot consistent found
    rw [get?_next consistent found, resolves]
    change display.pending.slots.get? place.1 place.2 = some slot at found
    rw [found]
    exact resolves
  rw [resolved?, mapM_eq_some each]
  rfl

private theorem copyBlock?_eq_some {slots : Grid Slot} {row column : Nat}
    (inside : row < slots.height ∧ column < slots.width) (sourceRow sourceColumn : Nat) :
    copyBlock? slots row column sourceRow sourceColumn =
      some (copyBlock slots row column sourceRow sourceColumn) := by
  apply Block.grown?_eq_some inside.1 inside.2
  intro r below c inRow
  obtain ⟨slot, found⟩ := Grid.exists_get? ⟨below, inRow⟩
  rw [found]
  split
  · next fits => simp [fits]
  · next outside =>
    rw [Decidable.not_and_iff_or_not] at outside
    rcases outside with beyond | beyond
    · simp [beyond]
    · simp [beyond]

private theorem inside_grown {slots : Grid Slot} (spans : display.Spans slots) {row column : Nat}
    (inside : row < slots.height ∧ column < slots.width) {fits : Nat → Nat → Bool} {r c : Nat}
    (member : (r, c) ∈ (Block.grown slots.width slots.height row column fits).cells) :
    r < slots.height ∧ c < slots.width := by
  rw [spans.1, spans.2] at inside member ⊢
  have within : (Block.grown display.width display.height row column fits).Within display :=
    Block.within_grown inside.1 inside.2
  have place := Block.mem_cells.mp member
  have below := within.1
  have inRow := within.2
  omega

private theorem spans_write {slots : Grid Slot} (spans : display.Spans slots) (block : Block)
    (slot : Nat → Nat → Slot) : display.Spans (block.write slots slot) := by
  unfold Spans
  rwa [Block.height_write, Block.width_write]

private theorem copyStep?_eq_some {next : Grid Cell} (whole : display.Spans next) {pass : CopyPass}
    (spans : display.Spans pass.slots) {place : Nat × Nat}
    (inside : place.1 < display.height ∧ place.2 < display.width) :
    display.copyStep? next pass place = some (display.copyStep next pass place) ∧
      display.Spans (display.copyStep next pass place).slots := by
  obtain ⟨row, column⟩ := place
  have here : row < pass.slots.height ∧ column < pass.slots.width := by
    rwa [spans.1, spans.2]
  obtain ⟨slot, found⟩ := Grid.exists_get? here
  cases slot with
  | unchanged | set =>
    simp only [copyStep?, copyStep, found]
    exact ⟨rfl, spans⟩
  | copy sourceRow sourceColumn =>
    have block := copyBlock?_eq_some here sourceRow sourceColumn
    simp only [copyStep?, copyStep, found, block, Option.bind_eq_bind, Option.bind_some,
      Option.pure_def]
    let block := copyBlock pass.slots row column sourceRow sourceColumn
    have covered {r c : Nat} (member : (r, c) ∈ block.cells) :=
      inside_grown spans here member
    split
    · have redrawn : (block.write? pass.slots fun r c =>
          (next.get? r c).bind fun cell => some (.set cell)) =
          some (block.write pass.slots fun r c =>
            .set ((next.get? r c).getD (.blank .default))) := by
        refine Block.write?_eq_some fun {r c} member => ⟨covered member, ?_⟩
        have known := covered member
        rw [spans.1, spans.2, ← whole.1, ← whole.2] at known
        obtain ⟨cell, content⟩ := Grid.exists_get? known
        rw [content]
        rfl
      rw [redrawn]
      exact ⟨rfl, spans_write spans block _⟩
    · have moved : (block.write? pass.slots fun _ _ => some .unchanged) =
          some (block.write pass.slots fun _ _ => .unchanged) :=
        Block.write?_eq_some fun member => ⟨covered member, rfl⟩
      rw [moved]
      exact ⟨rfl, spans_write spans block _⟩

private theorem copyPass?_eq_some {next : Grid Cell} (whole : display.Spans next)
    {slots : Grid Slot} (spans : display.Spans slots) :
    display.copyPass? next slots = some (display.copyPass next slots) ∧
      display.Spans (display.copyPass next slots).slots := by
  refine foldlM_eq_some (p := fun pass : CopyPass => display.Spans pass.slots) ?_ spans
  intro pass spansPass place member
  apply copyStep?_eq_some whole spansPass
  rw [← spans.1, ← spans.2]
  exact Grid.mem_places.mp member

private theorem fillStep?_eq_some {pass : FillPass} (spans : display.Spans pass.slots)
    {place : Nat × Nat} (inside : place.1 < display.height ∧ place.2 < display.width) :
    display.fillStep? pass place = some (display.fillStep pass place) ∧
      display.Spans (display.fillStep pass place).slots := by
  obtain ⟨row, column⟩ := place
  have here : row < pass.slots.height ∧ column < pass.slots.width := by
    rwa [spans.1, spans.2]
  obtain ⟨slot, found⟩ := Grid.exists_get? here
  simp only [fillStep?, fillStep, found, Option.bind_eq_bind, Option.bind_some, Option.pure_def]
  cases display.fillColor slot with
  | none => exact ⟨rfl, spans⟩
  | some color =>
    let fits := fun r c => (pass.slots.get? r c).bind display.fillColor == some color
    let block := Block.grown pass.slots.width pass.slots.height row column fits
    have grown : Block.grown? pass.slots.width pass.slots.height row column (fun r c =>
        (pass.slots.get? r c).bind fun slot => some (display.fillColor slot == some color)) =
        some block := by
      apply Block.grown?_eq_some here.1 here.2
      intro r below c inRow
      obtain ⟨other, waits⟩ := Grid.exists_get? ⟨below, inRow⟩
      simp only [fits, waits, Option.bind_some]
    have filled : (block.write? pass.slots fun _ _ => some .unchanged) =
        some (block.write pass.slots fun _ _ => .unchanged) :=
      Block.write?_eq_some fun member => ⟨inside_grown spans here member, rfl⟩
    simp only [grown, Option.bind_some, filled]
    exact ⟨rfl, spans_write spans block _⟩

private theorem fillPass?_eq_some {slots : Grid Slot} (spans : display.Spans slots) :
    display.fillPass? slots = some (display.fillPass slots) ∧
      display.Spans (display.fillPass slots).slots := by
  refine foldlM_eq_some (p := fun pass : FillPass => display.Spans pass.slots) ?_ spans
  intro pass spansPass place member
  apply fillStep?_eq_some spansPass
  rw [← spans.1, ← spans.2]
  exact Grid.mem_places.mp member

section

variable {cells : Grid Cell} {slots : Grid Slot} {row : Nat}

private theorem drawnColumns?_eq_some (below : row < cells.height) (column : Nat) (cell : Cell) :
    drawnColumns? cells row column cell = some (drawnColumns cells row column cell) := by
  rw [drawnColumns?, drawnColumns]
  split
  · next wide =>
    obtain ⟨right, found⟩ := Grid.exists_get? ⟨below, wide.2⟩
    rw [found, wide.1]
    rfl
  · next narrow =>
    rw [if_neg]
    rw [Bool.and_eq_true, Option.any_eq_true]
    rintro ⟨wide, right, found, -⟩
    exact narrow ⟨wide, (Grid.inside_of_get? found).2⟩

private theorem glyphsFrom?_eq_some (below : row < cells.height) (belowSlots : row < slots.height)
    (attributes : Attributes) (limit column : Nat) :
    glyphsFrom? cells slots row attributes limit column =
      some (glyphsFrom cells slots row attributes limit column) := by
  induction limit generalizing column with
  | zero => rfl
  | succ limit ih =>
    rw [glyphsFrom?, glyphsFrom]
    by_cases inRow : column < slots.width
    · obtain ⟨slot, found⟩ := Grid.exists_get? ⟨belowSlots, inRow⟩
      rw [if_pos inRow, found]
      cases slot with
      | unchanged | copy => rfl
      | set cell =>
        simp only [Option.bind_eq_bind, Option.bind_some, drawnColumns?_eq_some below, ih]
        split <;> rfl
    · have absent : slots.get? row column = none :=
        (Grid.get?_eq_none_iff slots row column).mpr fun inside => inRow inside.2
      rw [if_neg inRow, absent]

private theorem runsFrom_of_le {column : Nat} (beyond : slots.width ≤ column) (limit : Nat) :
    display.runsFrom cells slots row limit column = [] := by
  induction limit generalizing column with
  | zero => rfl
  | succ limit ih =>
    have absent : slots.get? row column = none :=
      (Grid.get?_eq_none_iff slots row column).mpr fun inside => Nat.not_lt.mpr beyond inside.2
    rw [runsFrom, absent]
    exact ih (Nat.le_succ_of_le beyond)

private theorem runsFrom?_eq_some (below : row < cells.height) (belowSlots : row < slots.height)
    (limit column : Nat) : display.runsFrom? cells slots row limit column =
      some (display.runsFrom cells slots row limit column) := by
  induction limit generalizing column with
  | zero => rfl
  | succ limit ih =>
    rw [runsFrom?]
    by_cases inRow : column < slots.width
    · obtain ⟨slot, found⟩ := Grid.exists_get? ⟨belowSlots, inRow⟩
      rw [if_pos inRow, runsFrom, found]
      cases slot with
      | unchanged | copy => exact ih (column + 1)
      | set cell =>
        simp only [Option.bind_eq_bind, Option.bind_some, glyphsFrom?_eq_some below belowSlots, ih]
        split <;> rfl
    · rw [if_neg inRow, runsFrom_of_le (Nat.not_lt.mp inRow)]

private theorem textPass?_eq_some (whole : display.Spans cells) (spans : display.Spans slots) :
    display.textPass? cells slots = some (display.textPass cells slots) := by
  have each : ∀ row ∈ List.range slots.height, display.runsFrom? cells slots row slots.width 0 =
      some (display.runsFrom cells slots row slots.width 0) := by
    intro row member
    have below := List.mem_range.mp member
    refine runsFrom?_eq_some ?_ below slots.width 0
    rw [whole.1, ← spans.1]
    exact below
  rw [textPass?, mapM_eq_some each, textPass, List.flatMap_def]
  rfl

end

/-- A flush looks nothing up outside the grid. -/
theorem flushPlan?_eq_some (consistent : display.Consistent) :
    display.flushPlan? = some display.flushPlan := by
  rw [flushPlan?, flushPlan]
  split
  · rfl
  · have whole : display.Spans display.next := ⟨rfl, rfl⟩
    have spans : display.Spans display.pending.slots := ⟨consistent.height_eq, consistent.width_eq⟩
    obtain ⟨copied, spansCopied⟩ := copyPass?_eq_some whole spans
    obtain ⟨filled, spansFilled⟩ := fillPass?_eq_some spansCopied
    simp only [resolved?_eq_some consistent, copied, filled, textPass?_eq_some whole spansFilled,
      Option.bind_eq_bind, Option.bind_some, Option.pure_def]
    rfl

end Display

namespace Recording

def perform? (pending : Pending) (recording : Recording) : Option (Pending × Nat) := do
  let changes := recording.changes pending.width pending.height
  return (← pending.recordAll? changes, changes.length)

/-- A recording call writes nothing outside the grid. -/
theorem perform?_eq_some (pending : Pending) (recording : Recording) :
    recording.perform? pending = some (recording.perform pending) := by
  have inside : ∀ change ∈ recording.changes pending.width pending.height,
      change.1 < pending.height ∧ change.2.1 < pending.width :=
    fun change member => (mem_changes_iff.mp member).1
  rw [perform?, perform_eq, Pending.recordAll?_eq_some inside]
  rfl

end Recording

namespace Pending

private theorem unchanged_of_clear (pending : Pending) :
    ∀ slot ∈ pending.clear.slots.entries, slot = .unchanged :=
  fun _ member => Array.eq_of_mem_replicate member

/-- Whatever calls a grid of pending changes has had: it has a slot for every cell, counts its
changes, and each copy in it takes its cell from another place of the same row or column. A
recording call returns the number of places that it records a change at and leaves the other
slots, to take the slots leaves nothing changed, and neither recordings nor flushes look anything up
outside the grid. -/
theorem sound_of_calls (width height : Nat) (calls : List PendingCall) :
    let pending := (empty width height).run calls
    (pending.width = width ∧ pending.height = height ∧
      pending.slots.entries.size = width * height) ∧
    pending.count = pending.slots.entries.countP (!·.isUnchanged) ∧
    (pending.isEmpty ↔ ∀ slot ∈ pending.slots.entries, slot = .unchanged) ∧
    (∀ {row column sourceRow sourceColumn : Nat},
      pending.get? row column = some (.copy sourceRow sourceColumn) →
        (sourceRow < height ∧ sourceColumn < width) ∧ (sourceRow, sourceColumn) ≠ (row, column) ∧
          (sourceRow = row ∨ sourceColumn = column)) ∧
    (∀ recording : Recording,
      (recording.perform pending).2 = (recording.places width height).card ∧
      (∀ row < height, ∀ column < width, (recording.perform pending).1.get? row column =
        (recording.target width height row column).or (pending.get? row column)) ∧
      recording.perform? pending = some (recording.perform pending)) ∧
    (pending.take.1 = pending.slots ∧ ∀ slot ∈ pending.take.2.slots.entries, slot = .unchanged) ∧
    ∀ display : Display, display.pending = pending → display.width = width →
      display.height = height → display.flushPlan? = some display.flushPlan := by
  intro pending
  have sound : pending.Sound width height := sound_run (sound_empty width height) calls
  obtain ⟨width_eq, height_eq, valid, aligned⟩ := sound
  refine ⟨⟨width_eq, height_eq, ?_⟩, valid.counted, valid.isEmpty_iff, ?_, ?_,
    ⟨rfl, unchanged_of_clear pending⟩, ?_⟩
  · rw [pending.slots.size_eq, ← width_eq, ← height_eq]
    rfl
  · intro row column sourceRow sourceColumn found
    have source := valid.sourced found
    rw [width_eq, height_eq] at source
    exact ⟨source, aligned found⟩
  · intro recording
    rw [recording.returned_perform, width_eq, height_eq]
    refine ⟨rfl, fun row below column inRow => ?_, recording.perform?_eq_some pending⟩
    rw [← width_eq, ← height_eq]
    exact recording.get?_perform pending ⟨height_eq.symm ▸ below, width_eq.symm ▸ inRow⟩
  · intro display same wide high
    apply Display.flushPlan?_eq_some
    refine ⟨?_, ?_, ?_⟩
    · rw [same, width_eq, wide]
    · rw [same, height_eq, high]
    · rwa [same]

end Pending
end CellScreen
