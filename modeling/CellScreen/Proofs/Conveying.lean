import Mathlib.Data.List.DropRight
import Mathlib.Data.List.Forall2
import CellScreen.Proofs.PixelCells
import CellScreen.Proofs.Replay
import CellScreen.Proofs.Request

/-! Calls conveyed to a viewer. A surface draws the calls that it gets, a viewer the instructions
that convey them. The two stay in step call by call, so the record of a surface says as much as the
image that a joining viewer is sent. -/
namespace CellScreen

namespace Call

def draws : Call → Bool
  | .resize .. | .copy .. | .fill .. | .text _ => true
  | _ => false

/-- The instructions that convey a call. The canvas has no alpha channel, so the alpha of a fill may
be any. -/
inductive Conveys : Call → List Instruction → Prop
  | resize (width height : Nat) : Conveys (.resize width height) [.size .terminal width height]
  | copy (source : Rect) (x y : Int) : Conveys (.copy source x y) [.copy .terminal source x y]
  | fill (rect : Rect) (color : Rgb) (alpha : UInt8) :
    Conveys (.fill rect color) [.fill .terminal rect (color.withAlpha alpha)]
  | text (run : TextRun) : Conveys (.text run) [.text .terminal run]
  | highlight (rects : List Rect) (color : Rgba) :
    Conveys (.highlight rects)
      (.clear .selection :: rects.map fun rect => .fill .selection rect color)
  | clearHighlight : Conveys .clearHighlight [.clear .selection]
  | flush : Conveys .flush [.sync]

end Call

namespace Surface

inductive Conveyed (background : Rgb) (calls : List Call) : List Instruction → Prop
  | intro (foreground : Rgb) {parts : List (List Instruction)}
    (each : List.Forall₂ Call.Conveys calls parts) :
    Conveyed background calls (.defaultColors foreground background :: parts.flatten)

/-- Nothing is drawn after the last flush. -/
def Settled (calls : List Call) : Prop :=
  ∀ call ∈ calls.rtakeWhile (· != .flush), call.draws = false

instance (calls : List Call) : Decidable (Settled calls) :=
  inferInstanceAs (Decidable (∀ call ∈ calls.rtakeWhile (· != .flush), call.draws = false))

structure Follows (viewer live : Surface) : Prop where
  background : viewer.background = live.background
  pending : viewer.pending = live.pending
  highlighted : viewer.highlighted = live.highlighted

variable {viewer live : Surface} {background : Rgb} {calls : List Call}
  {instructions : List Instruction}

private theorem Follows.step (follows : viewer.Follows live) {call : Call}
    (conveys : call.Conveys instructions) :
    (instructions.foldl receive viewer).Follows (live.apply call) := by
  obtain ⟨background, pending, highlighted⟩ := follows
  cases conveys with
  | resize width height =>
    refine ⟨background, ?_, highlighted⟩
    change viewer.pending.resize width height viewer.background = _
    rw [pending, background]
    rfl
  | copy source x y =>
    exact ⟨background, congrArg (·.copy source x y) pending, highlighted⟩
  | fill rect color alpha =>
    exact ⟨background, congrArg (·.fill rect (.paint color)) pending, highlighted⟩
  | text run => exact ⟨background, congrArg (·.draw run) pending, highlighted⟩
  | highlight rects color =>
    -- The layer is cleared first: rectangles of an earlier highlight do not stay beside the new.
    rw [List.foldl_cons, receive_fills]
    exact ⟨background, pending, rfl⟩
  | clearHighlight => exact ⟨background, pending, rfl⟩
  | flush => exact ⟨background, pending, highlighted⟩

private theorem Follows.run {parts : List (List Instruction)} (follows : viewer.Follows live)
    (each : List.Forall₂ Call.Conveys calls parts) :
    (parts.flatten.foldl receive viewer).Follows (live.applyAll calls) := by
  induction each generalizing viewer live with
  | nil => exact follows
  | cons conveys _ ih =>
    rw [List.flatten_cons, List.foldl_append]
    exact ih (follows.step conveys)

private theorem follows_defaultColors (foreground background : Rgb) :
    (empty.receive (.defaultColors foreground background)).Follows (ofBackground background) :=
  ⟨rfl, rfl, rfl⟩

/-- A viewer shows what is drawn on the surface, also where it is not flushed yet. -/
theorem follows_of_conveyed (conveyed : Conveyed background calls instructions) :
    (replay instructions).Follows ((ofBackground background).applyAll calls) := by
  obtain ⟨foreground, each⟩ := conveyed
  obtain ⟨background_eq, pending, highlighted⟩ :=
    (follows_defaultColors foreground background).run each
  exact ⟨background_eq, pending, highlighted⟩

private theorem applyAll_append (surface : Surface) (calls more : List Call) :
    surface.applyAll (calls ++ more) = (surface.applyAll calls).applyAll more :=
  List.foldl_append ..

private theorem applyAll_singleton (surface : Surface) (call : Call) :
    surface.applyAll [call] = surface.apply call := rfl

private theorem apply_of_not_draws (surface : Surface) {call : Call} (still : call.draws = false)
    (unflushed : call ≠ .flush) : (surface.apply call).pending = surface.pending ∧
      (surface.apply call).committed = surface.committed := by
  cases call with
  | highlight rects => exact ⟨rfl, rfl⟩
  | clearHighlight => exact ⟨rfl, rfl⟩
  | flush => exact absurd rfl unflushed
  | _ => cases still

/-- Where nothing is drawn after the last flush, all that is drawn is committed. -/
theorem committed_of_settled (background : Rgb) (settled : Settled calls) :
    ((ofBackground background).applyAll calls).committed =
      ((ofBackground background).applyAll calls).pending := by
  -- From the end: a last call other than a flush leaves both canvases as the calls before it.
  induction calls using List.reverseRecOn with
  | nil => rfl
  | append_singleton calls call ih =>
    rw [applyAll_append, applyAll_singleton]
    by_cases flushed : call = .flush
    · rw [flushed]
      rfl
    · have since : (calls ++ [call]).rtakeWhile (· != .flush) =
          calls.rtakeWhile (· != .flush) ++ [call] :=
        List.rtakeWhile_concat_pos _ _ _ (by simpa using flushed)
      rw [Settled, since, List.forall_mem_append] at settled
      have same := ((ofBackground background).applyAll calls).apply_of_not_draws
        (settled.2 call (List.mem_singleton_self call)) flushed
      rw [same.1, same.2]
      exact ih settled.1

def Logged (background : Rgb) (surface : Surface) : Prop :=
  (ofBackground background).applyAll surface.calls.toList = surface

theorem calls_applyAll (surface : Surface) (calls : List Call) :
    (surface.applyAll calls).calls.toList = surface.calls.toList ++ calls := by
  unfold applyAll
  induction calls generalizing surface with
  | nil => rw [List.append_nil]; rfl
  | cons call calls ih =>
    rw [List.foldl_cons, ih]
    change (surface.calls.push call).toList ++ calls = _
    rw [Array.toList_push, List.append_assoc, List.singleton_append]

private theorem Logged.applyAll {surface : Surface} (logged : surface.Logged background)
    (calls : List Call) : (surface.applyAll calls).Logged background := by
  rw [Logged, calls_applyAll, applyAll_append, logged]

end Surface

namespace Screen

theorem exists_applyAll_step (screen : Screen) (request : Request) :
    ∃ calls, (screen.step request).surface = screen.surface.applyAll calls := by
  cases request with
  | setColumns | copyColumns | copyRows | resetPalette => exact ⟨[], rfl⟩
  | resize | select | clearSelect => exact ⟨_, rfl⟩
  | setFont family size dpi =>
    refine ⟨[], ?_⟩
    obtain ⟨font, resolution, metrics, -, set⟩ := screen.step_setFont family size dpi
    rw [set]
    rfl
  | assignColor index color =>
    refine ⟨[], ?_⟩
    obtain ⟨palette, set⟩ := screen.step_assignColor index color
    rw [set]
    rfl
  | flushOperations => exact ⟨_, rfl⟩
  | flush | join =>
    refine ⟨screen.display.flushOperations.2.calls ++ [.flush], ?_⟩
    rw [Surface.applyAll_append]
    rfl

theorem logged_step {screen : Screen} {background : Rgb}
    (logged : screen.surface.Logged background) (request : Request) :
    (screen.step request).surface.Logged background := by
  obtain ⟨calls, applied⟩ := screen.exists_applyAll_step request
  rw [applied]
  exact logged.applyAll calls

theorem logged_run {screen : Screen} {background : Rgb}
    (logged : screen.surface.Logged background) (requests : List Request) :
    (screen.run requests).surface.Logged background := by
  apply run_induction (motive := fun reached => reached.surface.Logged background) logged
  intro reached logged request member
  exact logged_step logged request

theorem logged_new {background : Rgb} {fonts : FontSource} {config : Config} {screen : Screen}
    (made : Screen.new (.ofBackground background) fonts config = .ok screen) :
    screen.surface.Logged background := by
  obtain ⟨start, -, -, -, rfl⟩ := exists_start made
  have fresh : (Surface.ofBackground background).Logged background := rfl
  exact logged_step fresh _

/-- A viewer that is conveyed all calls on a fresh surface has the same canvas and the same
highlight before it, and the same canvas committed if nothing is drawn after the last flush. On a
screen, the record of all calls gives a viewer the canvas that one who joins is sent. -/
theorem conveyed_viewers_agree (background : Rgb) :
    (∀ {calls : List Call} {instructions : List Instruction},
      Surface.Conveyed background calls instructions →
        let live := (Surface.ofBackground background).applyAll calls
        let viewer := Surface.replay instructions
        viewer.pending = live.pending ∧ viewer.highlighted = live.highlighted ∧
          (Surface.Settled calls → viewer.committed = live.committed)) ∧
    ∀ {fonts : FontSource} {config : Config} {screen : Screen},
      Screen.new (.ofBackground background) fonts config = .ok screen →
      ∀ (requests : List Request) {instructions : List Instruction},
        let joined := (screen.run requests).join
        Surface.Conveyed background joined.1.surface.calls.toList instructions →
          (Surface.replay instructions).committed = (Surface.replay joined.2).committed ∧
            (Surface.replay instructions).pending = (Surface.replay joined.2).pending := by
  constructor
  · intro calls instructions conveyed live viewer
    have follows := Surface.follows_of_conveyed conveyed
    refine ⟨follows.pending, follows.highlighted, fun settled => ?_⟩
    calc viewer.committed = viewer.pending := rfl
      _ = live.pending := follows.pending
      _ = live.committed := (Surface.committed_of_settled background settled).symm
  · intro fonts config screen made requests instructions joined conveyed
    have logged : joined.1.surface.Logged background :=
      logged_step (logged_run (logged_new made) requests) .join
    have follows := Surface.follows_of_conveyed conveyed
    rw [logged] at follows
    have sent : (Surface.replay joined.2).pending = joined.1.surface.committed := by
      have instructions_eq : joined.2 = joined.1.viewerInstructions := rfl
      rw [instructions_eq, Surface.replay, receive_viewerInstructions]
    have same : (Surface.replay instructions).pending = (Surface.replay joined.2).pending := by
      calc (Surface.replay instructions).pending = joined.1.surface.pending := follows.pending
        _ = joined.1.surface.committed := rfl
        _ = (Surface.replay joined.2).pending := sent.symm
    exact ⟨same, same⟩

/-- A surface with overlapping drawing calls of which some come after the flush, and a screen on
which cells are selected before a viewer joins. -/
theorem conveyed_viewers_agree_of_selected :
    (let calls : List Call := [.resize 3 2, .fill ⟨0, 0, 2, 2⟩ ⟨255, 0, 0⟩,
        .text ⟨1, 0, 1, 2, [⟨'a', 2⟩], ⟨.white, .black, false, true⟩⟩, .copy ⟨0, 0, 2, 1⟩ 1 1,
        .highlight [⟨0, 0, 1, 1⟩, ⟨1, 1, 2, 1⟩], .flush, .clearHighlight]
      let live := (Surface.ofBackground .white).applyAll calls
      let viewer := Surface.replay [.defaultColors .black .white, .size .terminal 3 2,
        .fill .terminal ⟨0, 0, 2, 2⟩ ⟨⟨255, 0, 0⟩, 7⟩,
        .text .terminal ⟨1, 0, 1, 2, [⟨'a', 2⟩], ⟨.white, .black, false, true⟩⟩,
        .copy .terminal ⟨0, 0, 2, 1⟩ 1 1, .clear .selection,
        .fill .selection ⟨0, 0, 1, 1⟩ Display.selectionColor,
        .fill .selection ⟨1, 1, 2, 1⟩ Display.selectionColor, .sync, .clear .selection]
      Surface.Settled calls ∧ viewer.pending = live.pending ∧
        viewer.highlighted = live.highlighted ∧ viewer.committed = live.committed) ∧
    (let screen := ofPixels (.ofBackground .white) 2 1
      let joined := (screen.run [.setColumns 0 0 0 (.ofChar 'a' {}), .select ⟨0, 0⟩ ⟨0, 1⟩]).join
      let run : TextRun := ⟨0, 0, 1, 1, [⟨'a', 1⟩], ⟨⟨0x99, 0x99, 0x99⟩, .black, false, false⟩⟩
      let instructions : List Instruction := [.defaultColors .black .white, .size .terminal 2 1,
        .clear .selection, .fill .selection ⟨0, 0, 2, 1⟩ Display.selectionColor,
        .fill .terminal ⟨1, 0, 1, 1⟩ ⟨.black, 255⟩, .text .terminal run, .sync]
      Surface.Conveyed .white joined.1.surface.calls.toList instructions ∧
        (Surface.replay instructions).committed = (Surface.replay joined.2).committed ∧
          (Surface.replay instructions).pending = (Surface.replay joined.2).pending) := by
  constructor
  · intro calls live viewer
    have settled : Surface.Settled calls := by decide
    have conveyed : Surface.Conveyed .white calls _ :=
      .intro .black (.cons (.resize 3 2) (.cons (.fill _ _ 7) (.cons (.text _)
        (.cons (.copy _ _ _) (.cons (.highlight _ Display.selectionColor)
          (.cons .flush (.cons .clearHighlight .nil)))))))
    have agree := (conveyed_viewers_agree .white).1 conveyed
    exact ⟨settled, agree.1, agree.2.1, agree.2.2 settled⟩
  · intro screen joined run instructions
    have log : joined.1.surface.calls.toList = [.resize 2 1, .highlight [⟨0, 0, 2, 1⟩],
        .fill ⟨1, 0, 1, 1⟩ .black, .text run, .flush] := by
      decide +kernel
    have conveyed : Surface.Conveyed .white joined.1.surface.calls.toList instructions := by
      have each : List.Forall₂ Call.Conveys _ _ :=
        .cons (.resize 2 1) (.cons (.highlight [⟨0, 0, 2, 1⟩] Display.selectionColor)
          (.cons (.fill ⟨1, 0, 1, 1⟩ .black 255) (.cons (.text run) (.cons .flush .nil))))
      rw [log]
      exact .intro .black each
    exact ⟨conveyed, (conveyed_viewers_agree .white).2 (new_ofPixels _ 2 1) _ conveyed⟩

end Screen
end CellScreen
