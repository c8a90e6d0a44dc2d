import TermSession.Proofs.Session.Following
import TermSession.Proofs.Terminal.Actions
import TermSession.Session

/-!
# Reading a log in chunks

Chunks of a log may overlap, come twice and lie behind what was read before.  As long as none starts
beyond what is read already, a stream reads the log on without losing or repeating a byte, wherever
the chunks are cut, and so it finds each command once.

* `reach`, `Gapless`: how far chunks of a log reach, and that they leave no gap;
* `commandsBetween`: the commands that end between two positions;
* `Rendering.HasRead`: a rendering that has read a log so far; `HasRead.appendAll`: it reads on;
* `History`, `Backend.history`: what is read while a session loads; `Rendering.hasRead_load`.
-/

namespace TermSession

/-- How far a log is read after chunks. -/
def reach (position : Nat) (chunks : List Chunk) : Nat :=
  chunks.foldl (fun p c => max p c.stop) position

/-- Each chunk starts where the log is read already. -/
def Gapless : Nat → List Chunk → Prop
  | _, [] => True
  | position, c :: chunks => c.offset ≤ position ∧ Gapless (max position c.stop) chunks

instance decidableGapless : (position : Nat) → (chunks : List Chunk) →
    Decidable (Gapless position chunks)
  | _, [] => isTrue trivial
  | position, c :: chunks =>
    have := decidableGapless (max position c.stop) chunks
    inferInstanceAs (Decidable (c.offset ≤ position ∧ Gapless (max position c.stop) chunks))

@[simp] theorem reach_nil (position : Nat) : reach position [] = position := rfl

@[simp] theorem reach_cons (position : Nat) (c : Chunk) (chunks : List Chunk) :
    reach position (c :: chunks) = reach (max position c.stop) chunks := rfl

theorem reach_append (position : Nat) (a b : List Chunk) :
    reach position (a ++ b) = reach (reach position a) b := List.foldl_append

theorem le_reach (position : Nat) (chunks : List Chunk) : position ≤ reach position chunks := by
  induction chunks generalizing position with
  | nil => exact Nat.le_refl _
  | cons c chunks ih => exact Nat.le_trans (Nat.le_max_left _ _) (ih _)

theorem gapless_append {position : Nat} {a b : List Chunk} :
    Gapless position (a ++ b) ↔ Gapless position a ∧ Gapless (reach position a) b := by
  induction a generalizing position with
  | nil => simp [Gapless]
  | cons c a ih =>
    rw [List.cons_append, Gapless, Gapless, ih, reach_cons, and_assoc]

/-- The commands of a log that end between two positions, for a surface that stands at `start`. -/
def commandsBetween (origin : Surface) (start : Nat) (log : List UInt8) (p q : Nat) :
    List OscCommand :=
  ((origin.write (stretch log start p)).1.write (stretch log p q)).2

@[simp] theorem commandsBetween_self (origin : Surface) (start : Nat) (log : List UInt8) (p : Nat) :
    commandsBetween origin start log p p = [] := by
  simp [commandsBetween]

theorem commandsBetween_append (origin : Surface) {log : List UInt8} {start p q r : Nat}
    (hp : start ≤ p) (hpq : p ≤ q) (hqr : q ≤ r) (hr : r ≤ log.length) :
    commandsBetween origin start log p q ++ commandsBetween origin start log q r =
      commandsBetween origin start log p r := by
  unfold commandsBetween
  rw [← stretch_append hp hpq (Nat.le_trans hqr hr), ← stretch_append hpq hqr hr,
    Surface.write_append, Surface.write_append]

/-- They are found among all commands by where they end. -/
theorem commandsBetween_eq (origin : Surface) {log : List UInt8} {start p q : Nat}
    (hp : start ≤ p) (hpq : p ≤ q) (hq : q ≤ log.length) :
    commandsBetween origin start log p q =
      ((origin.completions start (log.drop start)).filter fun c =>
        p ≤ c.1 ∧ c.1 < q).map Prod.snd := by
  have hlog : log.drop start =
      stretch log start p ++ stretch log p q ++ stretch log q log.length := by
    rw [stretch_append hp hpq hq, stretch_append (Nat.le_trans hp hpq) hq (Nat.le_refl _), stretch,
      List.take_length]
  have hfilter := Surface.filter_completions origin start (stretch log start p) (stretch log p q)
    (stretch log q log.length)
  rw [length_stretch (Nat.le_trans hpq hq), length_stretch hq, Nat.add_sub_cancel' hp,
    Nat.add_sub_cancel' hpq] at hfilter
  rw [hlog, hfilter]
  rfl

namespace Rendering

/-! ### Many chunks -/

section

variable {σ : Type} [Display σ]

@[simp] theorem appendAll_nil (r : Rendering σ) : r.appendAll [] = (r, []) := rfl

theorem appendAll_cons (r : Rendering σ) (c : Chunk) (chunks : List Chunk) :
    r.appendAll (c :: chunks) =
      (((r.append c).1.appendAll chunks).1, (r.append c).2 ++ ((r.append c).1.appendAll chunks).2) := by
  have hfold (r : Rendering σ) (found : List OscCommand) :
      chunks.foldl (fun x chunk => ((x.1.append chunk).1, x.2 ++ (x.1.append chunk).2)) (r, found) =
      ((r.appendAll chunks).1, found ++ (r.appendAll chunks).2) := by
    unfold appendAll
    induction chunks generalizing r found with
    | nil => simp
    | cons c chunks ih =>
      simp only [List.foldl_cons, List.nil_append]
      rw [ih, ih _ (r.append c).2, List.append_assoc]
  exact hfold _ _

/-- A loaded stream renders the chunks that wait, and the commands that they complete take
effect. -/
theorem foldl_handleEvent_loaded (id : Text) {r : Rendering σ} (b : Backend) (chunks : List Chunk)
    (hl : r.output.loaded = true) :
    (chunks.map Chunk.event).foldl (Session.handleEvent id) (r, b) =
      ((r.appendAll chunks).1, (b.dispatch id (r.appendAll chunks).2 true).2) := by
  induction chunks generalizing r b with
  | nil => rfl
  | cons c chunks ih =>
    have hhandle : r.handle c.event = r.append c := by
      rw [Chunk.event, handle, if_pos hl]
    have hl' : (r.append c).1.output.loaded = true := by
      obtain ⟨-, -, -, hloaded, -⟩ := exists_calls_append r c
      exact hloaded.trans hl
    rw [List.map_cons, List.foldl_cons, Session.handleEvent, hhandle]
    simp only [hl', ih _ hl', appendAll_cons, Backend.dispatch, List.filterMap_append,
      List.foldl_append]

/-- A stream that is not loaded holds the chunks that wait back. -/
theorem foldl_handleEvent_unloaded (id : Text) {r : Rendering σ} (b : Backend) (chunks : List Chunk)
    (hl : r.output.loaded = false) :
    (chunks.map Chunk.event).foldl (Session.handleEvent id) (r, b) =
      ({ r with output.held := r.output.held ++ chunks }, b) := by
  induction chunks generalizing r with
  | nil => simp
  | cons c chunks ih =>
    have hhandle : r.handle c.event = ({ r with output.held := r.output.held ++ [c] }, []) := by
      simp [Chunk.event, handle, hl]
    rw [List.map_cons, List.foldl_cons, Session.handleEvent, hhandle]
    simp only [Backend.dispatch, List.filterMap_nil, List.foldl_nil]
    rw [ih (r := { r with output.held := r.output.held ++ [c] }) hl, List.append_assoc]
    rfl

end

/-! ### Reading on -/

theorem render_snd (r : Rendering Surface) (data : List UInt8) :
    (r.render data).2 = (r.surface.write data).2 := by
  cases data <;> rfl

/-- A surface that stood at `start` would stand where the rendering stands, had it read the log up
to the rendering's position. -/
structure HasRead (r : Rendering Surface) (origin : Surface) (start : Nat) (log : List UInt8) :
    Prop where
  start_le : start ≤ r.output.position
  le_length : r.output.position ≤ log.length
  decoder_eq : r.surface.decoder = (origin.write (stretch log start r.output.position)).1.decoder

namespace HasRead

variable {r : Rendering Surface} {origin : Surface} {start : Nat} {log : List UInt8}

/-- The next bytes of the log are read. -/
theorem render (h : r.HasRead origin start log) {q : Nat} (hq : r.output.position ≤ q)
    (hlog : q ≤ log.length) :
    (r.render (stretch log r.output.position q)).1.HasRead origin start log ∧
      (r.render (stretch log r.output.position q)).1.output.position = q ∧
      (r.render (stretch log r.output.position q)).2 =
        commandsBetween origin start log r.output.position q := by
  obtain ⟨hdecoder, hcommands⟩ :=
    Surface.write_congr h.decoder_eq (stretch log r.output.position q)
  have hposition : (r.render (stretch log r.output.position q)).1.output.position = q := by
    rw [render_fst, length_stretch hlog]
    exact Nat.add_sub_cancel' hq
  have hsurface : (r.render (stretch log r.output.position q)).1.surface =
      (r.surface.write (stretch log r.output.position q)).1 := by
    cases stretch log r.output.position q <;> rfl
  refine ⟨⟨?_, ?_, ?_⟩, hposition, ?_⟩
  · rw [hposition]
    exact Nat.le_trans h.start_le hq
  · rwa [hposition]
  · rw [hposition, hsurface, hdecoder, ← stretch_append h.start_le hq hlog, Surface.write_append]
  · rw [render_snd, hcommands]
    rfl

/-- A chunk that leaves no gap is read from the position on. -/
theorem append (h : r.HasRead origin start log) {c : Chunk} (hc : c.IsPieceOf log)
    (hgap : c.offset ≤ r.output.position) :
    (r.append c).1.HasRead origin start log ∧
      (r.append c).1.output.position = max r.output.position c.stop ∧
      (r.append c).2 =
        commandsBetween origin start log r.output.position (max r.output.position c.stop) := by
  by_cases hold : c.stop ≤ r.output.position
  · have happend : r.append c = (r, []) := if_pos hold
    rw [happend, Nat.max_eq_left hold]
    exact ⟨h, rfl, (commandsBetween_self _ _ _ _).symm⟩
  · have hnew := Nat.le_of_not_le hold
    have happend : r.append c = r.render (stretch log r.output.position c.stop) := by
      rw [← hc.drop_eq hgap]
      exact (if_neg hold).trans (by rw [Nat.max_eq_right hgap])
    rw [happend, Nat.max_eq_right hnew]
    exact h.render hnew (hc.stop_le (Nat.le_trans hgap h.le_length))

/-- Chunks that leave no gap are read on as far as they reach, and each command that ends there is
found once. -/
theorem appendAll (h : r.HasRead origin start log) {chunks : List Chunk}
    (hc : ∀ c ∈ chunks, c.IsPieceOf log) (hgap : Gapless r.output.position chunks) :
    (r.appendAll chunks).1.HasRead origin start log ∧
      (r.appendAll chunks).1.output.position = reach r.output.position chunks ∧
      (r.appendAll chunks).2 =
        commandsBetween origin start log r.output.position (reach r.output.position chunks) := by
  induction chunks generalizing r with
  | nil => exact ⟨h, rfl, (commandsBetween_self _ _ _ _).symm⟩
  | cons c chunks ih =>
    obtain ⟨hfirst, hposition, hfound⟩ := h.append (hc c List.mem_cons_self) hgap.1
    obtain ⟨hrest, hposition', hfound'⟩ := ih hfirst
      (fun c h => hc c (List.mem_cons_of_mem _ h)) (by rw [hposition]; exact hgap.2)
    rw [hposition] at hposition' hfound'
    rw [appendAll_cons, reach_cons]
    refine ⟨hrest, hposition', ?_⟩
    rw [hfound, hfound', commandsBetween_append origin h.start_le (Nat.le_max_left _ _)
      (le_reach _ _)]
    rw [← hposition']
    exact hrest.le_length

end HasRead

end Rendering

/-! ### Loading -/

/-- What a session reads that loads: a surface stands at `start` in the log, which is history up to
`tail`. -/
structure History where
  origin : Surface
  start : Nat
  log : List UInt8
  tail : Nat

namespace History

/-- The commands that end beyond the history and before a position. -/
def commandsUpTo (y : History) (q : Nat) : List OscCommand :=
  commandsBetween y.origin y.start y.log y.tail q

/-- Every command of a log, each with the position of its last byte. -/
def completions (y : History) : List (Nat × OscCommand) :=
  y.origin.completions y.start (y.log.drop y.start)

variable {y : History} {p q : Nat}

theorem commandsUpTo_append (hstart : y.start ≤ y.tail) (htail : y.tail ≤ p) (hpq : p ≤ q)
    (hq : q ≤ y.log.length) :
    y.commandsUpTo p ++ commandsBetween y.origin y.start y.log p q = y.commandsUpTo q :=
  commandsBetween_append y.origin hstart htail hpq hq

theorem commandsUpTo_eq (hstart : y.start ≤ y.tail) (htail : y.tail ≤ q) (hq : q ≤ y.log.length) :
    y.commandsUpTo q =
      (y.completions.filter fun c => y.tail ≤ c.1 ∧ c.1 < q).map Prod.snd :=
  commandsBetween_eq y.origin hstart htail hq

end History

namespace Backend

/-- The snapshot that a session starts from.  One without data is none. -/
def usable? (b : Backend) (session kind : Text) : Option Snapshot :=
  (b.snapshot? session kind).filter fun s => !s.isEmpty

/-- What a session that loads finds of a log.  A surface of any size is as good as another. -/
def history (b : Backend) (session kind : Text) (size : Size) (log : List UInt8) : History :=
  let snapshot := b.usable? session kind
  { origin := ((Surface.new size).write (Utf8.encode (snapshot.elim [] Snapshot.data))).1
    start := snapshot.elim 0 Snapshot.offset
    log
    tail := (b.log session).size }

end Backend

namespace Rendering

variable {b : Backend} {session : Text} (kind : Text)

theorem startingSnapshot?_eq {σ : Type} [Display σ] {r : Rendering σ}
    (hr : r.output.snapshotStale = false) (hf : b.failing = []) :
    r.startingSnapshot? b session kind = b.usable? session kind := by
  unfold startingSnapshot? Backend.usable?
  rw [hr]
  simp only [Backend.fetchSnapshot, Backend.fails, hf]
  cases hs : b.snapshot? session kind with
  | none => rfl
  | some s => cases he : s.isEmpty <;> simp [Option.filter, he]

/-- Resizing does nothing to what a surface remembers of the bytes. -/
theorem decoder_applySnapshot (r : Rendering Surface) (s : Snapshot) :
    (r.applySnapshot s).surface.decoder =
      (r.surface.write (Utf8.encode s.data)).1.decoder := by
  unfold applySnapshot
  dsimp only
  split
  · rename_i size _
    have hresize : (r.surface.resize size).decoder = r.surface.decoder := rfl
    exact (Surface.write_congr hresize _).1
  · rfl

/-- Where a fresh stream stands after the snapshot: at its offset, with the decoder that it leaves. -/
theorem restored_place {r : Rendering Surface} (size : Size) (log : List UInt8)
    (hp : r.output.position = 0) (hr : r.output.snapshotStale = false)
    (hd : r.surface.decoder = .idle) (hf : b.failing = []) :
    (r.restored b session kind).output.position = (b.history session kind size log).start ∧
      (r.restored b session kind).output.held = r.output.held ∧
      (r.restored b session kind).surface.decoder =
        (b.history session kind size log).origin.decoder := by
  simp only [restored, startingSnapshot?_eq kind hr hf, Backend.history]
  cases b.usable? session kind with
  | none => exact ⟨hp, rfl, hd⟩
  | some s =>
    refine ⟨rfl, rfl, ?_⟩
    rw [decoder_applySnapshot]
    exact (Surface.write_congr hd _).1

/-- A fresh stream that loads reads the history without handing out its commands, and then what was
held back. -/
theorem hasRead_load {r : Rendering Surface} (size : Size) {log : List UInt8}
    (hl : r.output.loaded = false) (hp : r.output.position = 0)
    (hr : r.output.snapshotStale = false) (hd : r.surface.decoder = .idle) (hf : b.failing = [])
    (hlog : (b.log session).toList <+: log)
    (hstart : (b.history session kind size log).start ≤ (b.log session).size)
    (hheld : ∀ c ∈ r.output.held, c.IsPieceOf log)
    (hgap : Gapless (b.log session).size r.output.held) :
    let y := b.history session kind size log
    let r' := (r.load b session kind).1
    r'.HasRead y.origin y.start log ∧ r'.output.position = reach y.tail r.output.held ∧
      r'.output.loaded = true ∧
      (r.load b session kind).2.1 = y.commandsUpTo (reach y.tail r.output.held) := by
  intro y r'
  have hprefix : (b.log session).toList = log.take y.tail := by
    rw [List.prefix_iff_eq_take.1 hlog, OutputLog.length_toList]
    rfl
  have htail : y.tail ≤ log.length := by
    rw [show y.tail = (b.log session).toList.length from (OutputLog.length_toList _).symm]
    exact hlog.length_le
  obtain ⟨hposition₀, hheld₀, hdecoder₀⟩ := restored_place kind size log hp hr hd hf
  obtain ⟨r₀, hr₀⟩ : ∃ r₀, r.restored b session kind = r₀ := ⟨_, rfl⟩
  rw [hr₀] at hposition₀ hheld₀ hdecoder₀
  have hload := load_eq hl hf hr₀ (by rwa [hposition₀, OutputLog.length_toList])
  have hread₀ : r₀.HasRead y.origin y.start log := by
    refine ⟨Nat.le_of_eq hposition₀.symm, ?_, ?_⟩
    · rw [hposition₀]
      exact Nat.le_trans hstart htail
    · rw [hposition₀, stretch_self, hdecoder₀]
      rfl
  -- The end of the log, which is history too.
  have hdata : (b.log session).toList.drop r₀.output.position =
      stretch log r₀.output.position y.tail := by rw [stretch, ← hprefix]
  obtain ⟨hread₁, hposition₁, -⟩ := hread₀.render (hposition₀ ▸ hstart) htail
  rw [hdata, hheld₀] at hload
  generalize (r₀.render (stretch log r₀.output.position y.tail)).1 = r₁ at hread₁ hposition₁ hload
  -- What was held back is live.
  obtain ⟨r₂, hr₂⟩ : ∃ r₂ : Rendering Surface, r₂ = { r₁ with
    output := { r₁.output with loaded := true, held := [], snapshotStale := false } } := ⟨_, rfl⟩
  have hread₂ : r₂.HasRead y.origin y.start log := by
    rw [hr₂]
    exact ⟨hread₁.start_le, hread₁.le_length, hread₁.decoder_eq⟩
  have hposition₂ : r₂.output.position = y.tail := by rw [hr₂, ← hposition₁]
  obtain ⟨hread, hreach, hcommands⟩ := hread₂.appendAll hheld (by rwa [hposition₂])
  obtain ⟨-, -, -, hloaded, -⟩ := exists_calls_appendAll r₂ r.output.held
  rw [hposition₂] at hreach hcommands
  simp only [← hr₂] at hload
  have hr' : r' = (r₂.appendAll r.output.held).1 := by rw [← congrArg Prod.fst hload]
  rw [hr', congrArg (·.2.1) hload]
  exact ⟨hread, hreach, hloaded.trans (by rw [hr₂]), hcommands⟩

end Rendering

end TermSession
