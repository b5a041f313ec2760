import TouchPanel.Proofs.Display.Window
import TouchPanel.Proofs.Step.Edit

/-!
# Incremental repaints

Between the steps of a window its owner may change what the window looks like: the text of a
label, the style, the flags of a button. Steps repaint what these changes made dirty and nothing
else. This module shows that no repaint is ever missed.

* `Operation`            — what the owner of a window does, steps included.
* `Tracked`                — the invariant: what is clean is on the screen as it looks now.

Main results:

* `Operation.tracked` — every operation keeps the invariant.
* `exists_performAll` — so does every sequence of operations, which always comes to an end.
* `exists_performAll_repaint` — a repaint in full after a step leaves every byte of display
  memory as it is.
-/

namespace TouchPanel

-- ---------------------------------------------------------------------------
-- Operations
-- ---------------------------------------------------------------------------

/-- What the owner of a window does. -/
inductive Operation where
  | step (tick : Tick)
  | edit (id : ChildId) (change : ChildEdit)
  | setStyle (style : Style)
  | markDirty

namespace Operation

/-- Does one thing to a window whose own owner is at `origin` on the screen. -/
def perform {σ : Type} [Canvas σ] (origin : Point) (w : Window Element) :
    Operation → Paint σ (Window Element)
  | step tick => w.step origin tick
  | edit id change => do
      Paint.report ((w.child? id).elim [] change.events)
      return w.modifyChild id change.apply
  | setStyle style => return w.setStyle style
  | markDirty => return Widget.markDirty w

/-- Does one thing after the other. -/
def performAll {σ : Type} [Canvas σ] (origin : Point) :
    List Operation → Window Element → Paint σ (Window Element)
  | [], w => return w
  | operation :: rest, w => do performAll origin rest (← operation.perform origin w)

/-- The window after the operation. -/
def next (origin : Point) (w : Window Element) : Operation → Window Element
  | step tick => StepModel.next origin tick w
  | edit id change => w.modifyChild id change.apply
  | setStyle style => w.setStyle style
  | markDirty => Widget.markDirty w

/-- What the operation draws. -/
def drawing (measure : TextMeasure) (origin : Point) (w : Window Element) :
    Operation → List Primitive
  | step tick => StepModel.drawing measure origin tick w
  | edit _ _ => []
  | setStyle _ => []
  | markDirty => []

/-- A text that is set has room in the label, unless the label is hidden. -/
def Fits (measure : TextMeasure) (w : Window Element) : Operation → Prop
  | edit id (.setText text) => ∀ l ∈ (w.child? id).bind Element.label?,
      l.state.visible = true → measure.Fits text l.state.size
  | _ => True

theorem performAll_append {σ : Type} [Canvas σ] (origin : Point) (first second : List Operation)
    (w : Window Element) :
    (performAll origin (first ++ second) w : Paint σ (Window Element)) =
      performAll origin first w >>= performAll origin second := by
  induction first generalizing w with
  | nil => simp only [List.nil_append, performAll, pure_bind]
  | cons operation rest ih => simp only [List.cons_append, performAll, ih, bind_assoc]

end Operation

-- ---------------------------------------------------------------------------
-- Edits of a window
-- ---------------------------------------------------------------------------

namespace Window

section Edit

variable {w : Window Element} {id : ChildId} {change : ChildEdit}

/-- A child after an edit of it or of another one. -/
theorem exists_of_getElem?_modifyChild {i : Nat} {e' : Element}
    (h : (w.modifyChild id change.apply).children[i]? = some e') :
    ∃ e, w.children[i]? = some e ∧ e.Flagged e' ∧
      (e' = e ∨ w.child? id = some e ∧ e' = change.apply e) := by
  have hModify : (w.children.modify id.slot change.apply)[i]? = some e' := h
  rw [List.getElem?_modify] at hModify
  obtain ⟨e, he, rfl⟩ := Option.map_eq_some_iff.mp hModify
  refine ⟨e, he, ?_⟩
  split
  · rename_i hSlot
    rw [← hSlot] at he
    exact ⟨change.flagged_apply e, .inr ⟨he, rfl⟩⟩
  · exact ⟨.refl e, .inl rfl⟩

/-- No child gets lost by an edit. -/
theorem exists_mem_modifyChild (id : ChildId) (change : ChildEdit) {e : Element}
    (he : e ∈ w.children) : ∃ e' ∈ (w.modifyChild id change.apply).children, e.Stays e' := by
  obtain ⟨i, hi⟩ := List.getElem?_of_mem he
  have hModify : (w.modifyChild id change.apply).children[i]? =
      some (if id.slot = i then change.apply e else e) := by
    show (w.children.modify id.slot change.apply)[i]? = _
    rw [List.getElem?_modify, hi]
    rfl
  refine ⟨_, List.mem_of_getElem? hModify, ?_⟩
  split
  · exact (change.flagged_apply e).stays
  · exact .refl e

/-- An edit of a child leaves on the screen what is clean after it. -/
theorem Painted.modifyChild {s : Screen} {place : Point} {seen : Layer}
    (h : Painted s place w seen) : Painted s place (w.modifyChild id change.apply) seen where
  ground := by
    intro p hOutside c hGround
    refine h.ground p (fun e he hVisible => ?_) c hGround
    obtain ⟨e', he', hStays⟩ := exists_mem_modifyChild id change he
    rw [← hStays.globalBounds]
    exact hOutside e' he' (hStays.visible.trans hVisible)
  children := by
    intro e' he' hVisible hClean
    obtain ⟨i, hi⟩ := List.getElem?_of_mem he'
    obtain ⟨e, he, hFlagged, -⟩ := exists_of_getElem?_modifyChild hi
    rw [hFlagged.stays.visible] at hVisible
    rw [hFlagged.stays.globalBounds, hFlagged.looks hClean]
    exact h.children e (List.mem_of_getElem? he) hVisible (hFlagged.clean hClean)

end Edit

end Window

-- ---------------------------------------------------------------------------
-- Arrangements
-- ---------------------------------------------------------------------------

/-- The visible children of the window end inside the plane and have room for their texts, and no
point belongs to two of them. -/
structure Window.Arranged (measure : TextMeasure) (origin : Point) (w : Window Element) :
    Prop where
  right_lt : ∀ e ∈ w.children, e.state.visible = true →
    origin.x.toNat + w.state.position.x.toNat + e.state.position.x.toNat +
      e.state.size.width.toNat < 1 <<< 64
  bottom_lt : ∀ e ∈ w.children, e.state.visible = true →
    origin.y.toNat + w.state.position.y.toNat + e.state.position.y.toNat +
      e.state.size.height.toNat < 1 <<< 64
  fits : ∀ e ∈ w.children, e.state.visible = true → measure.Fits e.text e.state.size
  apart : ∀ (i j : Nat) (e f : Element), w.children[i]? = some e → w.children[j]? = some f →
    i ≠ j → e.state.visible = true → f.state.visible = true →
      ∀ p, (e.state.globalBounds (w.state.globalPosition origin)).contains p = true →
        (f.state.globalBounds (w.state.globalPosition origin)).contains p = false

theorem Window.Arranged.spread {measure : TextMeasure} {origin : Point} {w : Window Element}
    (h : w.Arranged measure origin) :
    Spread measure (w.state.globalPosition origin) w.children where
  placed := by
    intro e he hVisible
    have hRight := h.right_lt e he hVisible
    have hBottom := h.bottom_lt e he hVisible
    refine ⟨?_, ?_, h.fits e he hVisible⟩
    · show ((e.state.position.x.addSat (w.state.position.x.addSat origin.x)).toNat +
        e.state.size.width.toNat < 1 <<< 64)
      rw [Word.toNat_addSat, Word.toNat_addSat]
      omega
    · show ((e.state.position.y.addSat (w.state.position.y.addSat origin.y)).toNat +
        e.state.size.height.toNat < 1 <<< 64)
      rw [Word.toNat_addSat, Word.toNat_addSat]
      omega
  apart := h.apart

/-- No child gets in the way of the only one. -/
theorem Window.arranged_of_child {measure : TextMeasure} {origin : Point} {w : Window Element}
    {e : Element} (hChildren : w.children = [e])
    (hRight : e.state.visible = true → origin.x.toNat + w.state.position.x.toNat +
      e.state.position.x.toNat + e.state.size.width.toNat < 1 <<< 64)
    (hBottom : e.state.visible = true → origin.y.toNat + w.state.position.y.toNat +
      e.state.position.y.toNat + e.state.size.height.toNat < 1 <<< 64)
    (hFits : e.state.visible = true → measure.Fits e.text e.state.size) :
    w.Arranged measure origin where
  right_lt := by
    rw [hChildren]
    exact List.forall_mem_singleton.mpr hRight
  bottom_lt := by
    rw [hChildren]
    exact List.forall_mem_singleton.mpr hBottom
  fits := by
    rw [hChildren]
    exact List.forall_mem_singleton.mpr hFits
  apart := by
    rw [hChildren]
    intro i j e f hi hj hNe
    match i, j with
    | 0, 0 => exact absurd rfl hNe
    | _ + 1, _ => cases hi
    | _, _ + 1 => cases hj

-- ---------------------------------------------------------------------------
-- Runs
-- ---------------------------------------------------------------------------

/-- The screen `s` after some operations turned the window `w₀` into `w`: it is the screen `s₀`
with `seen` painted on it since then, and what is clean is there. -/
structure Tracked (s₀ : Screen) (origin : Point) (w₀ : Window Element) (s : Screen)
    (w : Window Element) (seen : Layer) : Prop where
  gains : s₀.Gains s seen
  stays : w₀.Stays w
  spread : Spread (Canvas.textSize s₀) (w.state.globalPosition origin) w.children
  current : w.state.dirty = true ∨
    Window.Painted s₀ (w.state.globalPosition origin) w seen

section Runs

variable {s₀ s t : Screen} {origin : Point} {w₀ w : Window Element} {seen : Layer}

/-- A text that has room in a label of the first window has room in the label as it is now, since
labels stay where they are. -/
theorem Tracked.fits_setText (h : Tracked s₀ origin w₀ s w seen) {id : ChildId} {text : String}
    (hFits : (Operation.edit id (.setText text)).Fits (Canvas.textSize s₀) w₀) {l : Label}
    (hChild : w.child? id = some (.label l)) (hVisible : l.state.visible = true) :
    TextMeasure.Fits (Canvas.textSize s₀) text l.state.size := by
  obtain ⟨e₀, he₀, hState, hKind⟩ := h.stays.children id.slot _ hChild
  cases e₀ with
  | button b => cases hKind
  | label l₀ =>
    have hSame : l.state = { l₀.state with dirty := l.state.dirty } := hState
    have hMem : l₀ ∈ (w₀.child? id).bind Element.label? :=
      Option.bind_eq_some_iff.mpr ⟨_, he₀, rfl⟩
    have hRoom : l₀.state.visible = true →
        TextMeasure.Fits (Canvas.textSize s₀) text l₀.state.size := hFits l₀ hMem
    rw [hSame] at hVisible ⊢
    exact hRoom hVisible

/-- The texts have room after an edit, if the one that is set has. -/
theorem Tracked.spread_modifyChild (h : Tracked s₀ origin w₀ s w seen) {id : ChildId}
    {change : ChildEdit} (hFits : (Operation.edit id change).Fits (Canvas.textSize s₀) w₀) :
    Spread (Canvas.textSize s₀) (w.state.globalPosition origin)
      (w.modifyChild id change.apply).children := by
  refine h.spread.of_stays (w.stays_edit id change).children ?_
  intro e' he' hVisible
  obtain ⟨i, hi⟩ := List.getElem?_of_mem he'
  obtain ⟨e, he, hFlagged, hEdit⟩ := Window.exists_of_getElem?_modifyChild hi
  rw [hFlagged.stays.visible] at hVisible
  have hBefore : TextMeasure.Fits (Canvas.textSize s₀) e.text e.state.size :=
    (h.spread.placed e (List.mem_of_getElem? he) hVisible).fits
  rcases hEdit with rfl | ⟨hChild, rfl⟩
  · exact hBefore
  · rcases change.text_apply e with ⟨text, l, rfl, rfl⟩ | hText
    · have hRoom : TextMeasure.Fits (Canvas.textSize s₀) text l.state.size :=
        h.fits_setText hFits hChild hVisible
      exact hRoom
    · have hSize : (change.apply e).state.size = e.state.size := by
        rw [hFlagged.stays.state]
      rw [hText, hSize]
      exact hBefore

/-- A window that is to be repainted in full needs nothing to be on the screen. -/
theorem Tracked.markDirty (h : Tracked s₀ origin w₀ s w seen) :
    Tracked s₀ origin w₀ s (Widget.markDirty w) seen where
  gains := h.gains
  stays := h.stays.trans ⟨rfl, fun _ e he => ⟨e, he, .refl e⟩⟩
  spread := h.spread
  current := .inl rfl

/-- **Every operation keeps the invariant.** -/
theorem Operation.tracked (hReady : s₀.Ready) (h : Tracked s₀ origin w₀ s w seen)
    {operation : Operation} (hFits : operation.Fits (Canvas.textSize s₀) w₀) :
    ∃ t, (operation.perform origin w).Ends s (operation.next origin w) t ∧
      Tracked s₀ origin w₀ t (operation.next origin w)
        ((s₀.look (operation.drawing (Canvas.textSize s₀) origin w)).onto seen) := by
  cases operation with
  | step tick =>
    have hMeasure : Canvas.textSize s = Canvas.textSize s₀ := Screen.textSize_of_font h.gains.font
    have hStep : ∃ t, (w.step origin tick).Ends s (StepModel.next origin tick w) t ∧
        s.Gains t (s.look (StepModel.drawing (Canvas.textSize s) origin tick w)) := by
      refine Window.exists_step (h.gains.ready hReady) ?_ tick
      rw [hMeasure]
      exact h.spread
    obtain ⟨t, hEnds, hGains⟩ := hStep
    rw [hMeasure, h.gains.look_eq] at hGains
    exact ⟨t, hEnds, h.gains.trans hGains, h.stays.trans (w.stays_next origin tick),
      Window.spread_next h.spread, .inr (Window.painted_next h.spread h.current)⟩
  | edit id change =>
    refine ⟨s, ?_, h.gains, h.stays.trans (w.stays_edit id change),
      h.spread_modifyChild hFits, h.current.imp_right Window.Painted.modifyChild⟩
    refine Paint.ends_bind.mpr ⟨(), s, Paint.ends_report.mpr rfl, ?_⟩
    exact Paint.ends_pure.mpr ⟨rfl, rfl⟩
  | setStyle style =>
    refine ⟨s, Paint.ends_pure.mpr ⟨rfl, rfl⟩, h.gains, h.stays.trans ?_, h.spread, .inl rfl⟩
    exact ⟨rfl, fun _ e he => ⟨e, he, .refl e⟩⟩
  | markDirty => exact ⟨s, Paint.ends_pure.mpr ⟨rfl, rfl⟩, h.markDirty⟩

/-- Operations one after the other come to an end and keep the invariant. -/
theorem exists_performAll (hReady : s₀.Ready) (h : Tracked s₀ origin w₀ s w seen)
    {operations : List Operation}
    (hFits : ∀ operation ∈ operations, operation.Fits (Canvas.textSize s₀) w₀) :
    ∃ w' t seen', (Operation.performAll origin operations w).Ends s w' t ∧
      Tracked s₀ origin w₀ t w' seen' := by
  induction operations generalizing s w seen with
  | nil => exact ⟨w, s, seen, Paint.ends_pure.mpr ⟨rfl, rfl⟩, h⟩
  | cons operation rest ih =>
    obtain ⟨hFirst, hRest⟩ := List.forall_mem_cons.mp hFits
    obtain ⟨u, hPerform, hTracked⟩ := operation.tracked hReady h hFirst
    obtain ⟨w', t, seen', hPerformAll, hEnd⟩ := ih hTracked hRest
    exact ⟨w', t, seen', Paint.ends_bind.mpr ⟨_, u, hPerform, hPerformAll⟩, hEnd⟩

/-- A repaint in full right after a step with the same tick changes nothing on the screen. -/
theorem Tracked.exists_repaint (hReady : s₀.Ready) (h : Tracked s₀ origin w₀ s w seen)
    (tick : Tick) :
    ∃ s₁ w₂ s₂, (w.step origin tick).Ends s (StepModel.next origin tick w) s₁ ∧
      (Widget.step origin tick (Widget.markDirty (StepModel.next origin tick w))).Ends s₁ w₂ s₂ ∧
        s₂.framebuffer = s₁.framebuffer := by
  have hFits : (Operation.step tick).Fits (Canvas.textSize s₀) w₀ := trivial
  obtain ⟨s₁, hStep, hStepped⟩ := Operation.tracked hReady h hFits
  obtain ⟨s₂, hRepaint, hRepainted⟩ := Operation.tracked hReady hStepped.markDirty hFits
  have hPainted := hStepped.current.resolve_left fun hDirty => nomatch hDirty
  have hSettled : ∀ e ∈ (StepModel.next origin tick w).children, e.state.visible = true →
      (e.followed (w.state.globalPosition origin) tick).pressed? = e.pressed? :=
    fun _ he hVisible => Window.pressed?_followed_next he hVisible
  have hShows := Window.shows_redraw hStepped.spread hPainted
    (fun _ he hVisible => Window.dirty_next_of_mem he hVisible) hSettled
  refine ⟨s₁, _, s₂, hStep, hRepaint, ?_⟩
  rw [hRepainted.gains.framebuffer, hStepped.gains.framebuffer]
  exact congrArg s₀.framebuffer.overlay hShows.onto_eq

end Runs

/-- **Incremental repaints are enough.** The memory of the screen has the size that its layout asks
for (`Framebuffer.sound_attach`), and its font, if it has one, was accepted. The window is dirty;
its visible children end inside the plane, have room for their texts and do not overlap. Whatever
is done to it then comes to an end, as long as the texts that are set have room too; and once it
was stepped, a repaint in full with the same tick leaves every byte of display memory as it is. -/
theorem exists_performAll_repaint {s : Screen} {origin : Point} {w : Window Element}
    (hSound : s.framebuffer.Sound)
    (hFont : ∀ font ∈ s.font, ∃ data, Font.load data = .ok font)
    (hArranged : w.Arranged (Canvas.textSize s) origin)
    (hDirty : w.state.dirty = true) {operations : List Operation}
    (hFits : ∀ operation ∈ operations, operation.Fits (Canvas.textSize s) w) (tick : Tick) :
    ∃ w₁ s₁ w₂ s₂,
      (Operation.performAll origin (operations ++ [.step tick]) w).Ends s w₁ s₁ ∧
      (Widget.step origin tick (Widget.markDirty w₁)).Ends s₁ w₂ s₂ ∧
      s₂.framebuffer.memory = s₁.framebuffer.memory := by
  have hReady : s.Ready := by
    refine ⟨hSound, fun font hMem => ?_⟩
    obtain ⟨data, hLoad⟩ := hFont font hMem
    exact Font.regular_of_load hLoad
  have hTracked : Tracked s origin w s w .empty :=
    ⟨.refl s, .refl w, hArranged.spread, .inl hDirty⟩
  obtain ⟨w', t, seen, hPerformAll, hTracked⟩ := exists_performAll hReady hTracked hFits
  obtain ⟨s₁, w₂, s₂, hStep, hRepaint, hSame⟩ := hTracked.exists_repaint hReady tick
  refine ⟨_, s₁, w₂, s₂, ?_, hRepaint, congrArg Framebuffer.memory hSame⟩
  rw [Operation.performAll_append]
  refine Paint.ends_bind.mpr ⟨w', t, hPerformAll, ?_⟩
  exact Paint.ends_bind.mpr ⟨_, s₁, hStep, Paint.ends_pure.mpr ⟨rfl, rfl⟩⟩

/-- A picture of 24 times 4 pixels in rows of 73 bytes, and texts in `dashes`. -/
def strip : Screen :=
  { (Screen.attach ⟨24, 4, 73, .rgb⟩ (Array.replicate 292 0) .black).1 with font := some dashes }

/-- A label with a button to the right of it. -/
def labelAndButton : Window Element :=
  { (Window.new ⟨0, 1, 24, 3⟩ .standard 2 : Window Element) with
    children := [.label (.new ⟨0, 0, 16, 2⟩ "!!" .standard),
      .button (.new ⟨16, 0, 8, 2⟩ "#" .standard)] }

theorem arranged_labelAndButton : labelAndButton.Arranged (Canvas.textSize strip) .zero where
  right_lt := by decide
  bottom_lt := by decide
  fits := by
    refine List.forall_mem_cons.mpr ⟨fun _ => ?_, List.forall_mem_singleton.mpr fun _ => ?_⟩
    · exact ⟨⟨16, 1⟩, rfl, by decide, by decide⟩
    · exact ⟨⟨8, 1⟩, rfl, by decide, by decide⟩
  apart := by
    intro i j e f hi hj hNe _ _ p hContains
    have hClip : (e.state.globalBounds (labelAndButton.state.globalPosition .zero)).clipTo?
        (f.state.globalBounds (labelAndButton.state.globalPosition .zero)) = none := by
      match i, j with
      | 0, 0 => exact absurd rfl hNe
      | 0, 1 =>
        cases hi
        cases hj
        decide
      | 1, 0 =>
        cases hi
        cases hj
        decide
      | 1, 1 => exact absurd rfl hNe
      | _ + 2, _ => cases hi
      | _, _ + 2 => cases hj
    refine Bool.eq_false_iff.mpr fun h => ?_
    exact Rect.not_contains_of_clipTo?_eq_none hClip p ⟨hContains, h⟩

theorem exists_performAll_repaint_labelAndButton :
    ∃ w₁ s₁ w₂ s₂,
      (Operation.performAll .zero ([.step ⟨10, none⟩, .edit ⟨0⟩ (.setText "#"),
        .step ⟨10, some ⟨20, 2⟩⟩, .edit ⟨1⟩ .reset] ++ [.step ⟨10, some ⟨20, 2⟩⟩])
          labelAndButton).Ends strip w₁ s₁ ∧
      (Widget.step .zero ⟨10, some ⟨20, 2⟩⟩ (Widget.markDirty w₁)).Ends s₁ w₂ s₂ ∧
      s₂.framebuffer.memory = s₁.framebuffer.memory := by
  have hSound : (Framebuffer.attach ⟨24, 4, 73, .rgb⟩ (Array.replicate 292 0)).1.Sound := by
    refine Framebuffer.sound_attach Array.size_replicate ?_
    rw [Array.size_replicate]
    decide
  refine exists_performAll_repaint hSound ?_ arranged_labelAndButton rfl ?_ _
  · intro font hFont
    cases hFont
    exact ⟨dashesData, load_dashesData⟩
  · simp only [List.forall_mem_cons, Operation.Fits]
    refine ⟨trivial, ?_, trivial, trivial, fun _ h => nomatch h⟩
    intro l hl _
    cases hl
    exact ⟨⟨8, 1⟩, rfl, by decide, by decide⟩

end TouchPanel
