import TouchPanel.Proofs.Display.Confined
import TouchPanel.Proofs.Display.Incremental

/-!
# Children that are hidden or moved

The owner of a window may hide a child, move it or resize it. A child that is moved or resized is
dirty then, and draws itself where it is now. The window is not, so nothing is drawn where the child
was before: the points that it left to no other child keep its old picture until the window itself is
repainted. Everything else is on the screen as a repaint in full would show it.

* `Window.UpToDate`          — the window is clean, and a repaint in full would change nothing.
* `Window.Vacated`           — a point that the child left to no other child.
* `Painted.arrangeChild`     — up to these points the picture is still that of the window.
* `exists_step_arrangeChild` — so they are all that a repaint in full changes.
-/

namespace TouchPanel

-- ---------------------------------------------------------------------------
-- What is on the screen
-- ---------------------------------------------------------------------------

namespace Window

/-- A window is clean, and the screen shows it with no button pressed: a repaint in full with a tick
would leave every byte of display memory as it is. -/
structure UpToDate (s : Screen) (origin : Point) (tick : Tick) (w : Window Element) : Prop where
  clean : w.state.dirty = false
  children_clean : ∀ e ∈ w.children, e.state.visible = true → e.state.dirty = false
  released : ∀ b, Element.button b ∈ w.children → b.state.visible = true → b.pressed = false
  shown : ∀ w' s', (Widget.step origin tick (Widget.markDirty w)).Ends s w' s' →
    s'.framebuffer.memory = s.framebuffer.memory

/-- Changes the common state of a child. -/
def arrangeChild (w : Window Element) (id : ChildId) (edit : StateEdit) : Window Element :=
  w.modifyChild id (Widget.mapState edit.apply)

/-- A point was in the area of a child, and is in that of no visible child of the window now. -/
def Vacated (place : Point) (child : Element) (w : Window Element) (p : Point) : Prop :=
  (child.state.globalBounds place).contains p = true ∧
    ∀ e ∈ w.children, e.state.visible = true → (e.state.globalBounds place).contains p = false

instance (place : Point) (child : Element) (w : Window Element) (p : Point) :
    Decidable (w.Vacated place child p) :=
  inferInstanceAs (Decidable (_ ∧ ∀ e ∈ w.children, _ → _))

section Step

variable {s : Screen} {origin : Point} {tick : Tick} {w : Window Element} {p : Point}

/-- A tick without a pointer presses or releases no button if none is pressed. -/
theorem UpToDate.pressed?_followed (h : w.UpToDate s origin tick) (hPointer : tick.pointer = none)
    {e : Element} (he : e ∈ w.children) (hVisible : e.state.visible = true) (place : Point) :
    (e.followed place tick).pressed? = e.pressed? := by
  cases e with
  | label l => rfl
  | button b =>
    refine congrArg some ?_
    rw [Button.pressed_track, hPointer, h.released b he hVisible]
    rfl

/-- Outside of its visible children a window draws its ground, if it is dirty, and nothing else. -/
theorem look_drawing_of_outside (tick : Tick)
    (hSpread : Spread (Canvas.textSize s) (w.state.globalPosition origin) w.children)
    (hOutside : ∀ e ∈ w.children, e.state.visible = true →
      (e.state.globalBounds (w.state.globalPosition origin)).contains p = false) :
    s.look (StepModel.drawing (Canvas.textSize s) origin tick w) p =
      s.look (if w.state.dirty then w.ground (w.state.globalPosition origin) else []) p := by
  have hChildren : s.look (w.marked.flatMap (childDrawing (Canvas.textSize s)
      (w.state.globalPosition origin) tick)) p = none := by
    rw [Screen.look_flatMap_eq_none_iff]
    intro e he
    rw [Option.eq_none_iff_forall_ne_some]
    intro c hLook
    obtain ⟨hVisible, hContains⟩ := (spread_marked hSpread).contains_of_look he hLook
    obtain ⟨i, hi⟩ := List.getElem?_of_mem he
    obtain ⟨e₀, he₀, hStays, -⟩ := exists_of_getElem?_marked hi
    rw [hStays.visible] at hVisible
    rw [hStays.globalBounds, hOutside e₀ (List.mem_of_getElem? he₀) hVisible] at hContains
    cases hContains
  rw [look_drawing, Layer.onto_of_eq_none hChildren]

/-- A repaint in full puts the window on the screen as it is, if the tick presses or releases no
button. -/
theorem painted_repaint
    (hSpread : Spread (Canvas.textSize s) (w.state.globalPosition origin) w.children)
    (hCalm : ∀ e ∈ w.children, e.state.visible = true →
      (e.followed (w.state.globalPosition origin) tick).pressed? = e.pressed?) :
    Painted s (w.state.globalPosition origin) w
      (s.look (StepModel.drawing (Canvas.textSize s) origin tick (Widget.markDirty w))) where
  ground := by
    intro p hOutside c hGround
    have hOnly : s.look (StepModel.drawing (Canvas.textSize s) origin tick (Widget.markDirty w)) p =
        s.look (w.ground (w.state.globalPosition origin)) p :=
      look_drawing_of_outside (w := Widget.markDirty w) tick hSpread hOutside
    exact hOnly.trans hGround
  children := by
    intro e he hVisible _ p c hLook
    have hMarked : Spread (Canvas.textSize s) (w.state.globalPosition origin)
        (w.children.map Widget.markDirty) :=
      hSpread.map (fun e => e.stays_mapState_dirty true) (Element.text_mapState _)
    have hStays : e.Stays (Widget.markDirty e) := e.stays_mapState_dirty true
    have hContains := (hSpread.placed e he hVisible).within.contains hLook
    rw [← hStays.globalBounds] at hContains
    obtain ⟨i, hi⟩ := List.getElem?_of_mem (List.mem_map_of_mem (f := Widget.markDirty) he)
    have hChild : s.look ((w.children.map Widget.markDirty).flatMap
        (childDrawing (Canvas.textSize s) (w.state.globalPosition origin) tick)) p =
        s.look (childDrawing (Canvas.textSize s) (w.state.globalPosition origin) tick
          (Widget.markDirty e)) p :=
      hMarked.look_children hi (hStays.visible.trans hVisible) hContains
    rw [look_childDrawing_markDirty hVisible (hCalm e he hVisible), hLook] at hChild
    rw [look_drawing]
    exact Layer.onto_of_eq_some hChild _

/-- Right after a step of a window that was on the screen, a repaint in full with the same tick adds
nothing. -/
theorem shows_repaint_next {seen : Layer} (tick : Tick)
    (hSpread : Spread (Canvas.textSize s) (w.state.globalPosition origin) w.children)
    (hPainted : Painted s (w.state.globalPosition origin) w seen) :
    ((s.look (StepModel.drawing (Canvas.textSize s) origin tick w)).onto seen).Shows
      (s.look (StepModel.drawing (Canvas.textSize s) origin tick
        (Widget.markDirty (StepModel.next origin tick w)))) := by
  have hSettled : ∀ e ∈ (StepModel.next origin tick w).children, e.state.visible = true →
      (e.followed (w.state.globalPosition origin) tick).pressed? = e.pressed? :=
    fun _ he hVisible => pressed?_followed_next he hVisible
  exact shows_redraw (spread_next hSpread) (painted_next hSpread (.inr hPainted))
    (fun _ he hVisible => dirty_next_of_mem he hVisible) hSettled

/-- Right after a step a repaint in full draws the ground outside of the visible children. -/
theorem look_repaint_next_of_outside (tick : Tick)
    (hSpread : Spread (Canvas.textSize s) (w.state.globalPosition origin) w.children)
    (hOutside : ∀ e ∈ w.children, e.state.visible = true →
      (e.state.globalBounds (w.state.globalPosition origin)).contains p = false) :
    s.look (StepModel.drawing (Canvas.textSize s) origin tick
        (Widget.markDirty (StepModel.next origin tick w))) p =
      s.look (w.ground (w.state.globalPosition origin)) p := by
  have hStill : ∀ e ∈ (StepModel.next origin tick w).children, e.state.visible = true →
      (e.state.globalBounds (w.state.globalPosition origin)).contains p = false := by
    intro e' he' hVisible
    obtain ⟨i, hi⟩ := List.getElem?_of_mem he'
    obtain ⟨e, he, hStays⟩ := (w.stays_next origin tick).children i e' hi
    rw [hStays.visible] at hVisible
    rw [hStays.globalBounds]
    exact hOutside e (List.mem_of_getElem? he) hVisible
  exact look_drawing_of_outside (w := Widget.markDirty (StepModel.next origin tick w)) tick
    (spread_next hSpread) hStill

/-- The window is on the screen: the picture of a repaint in full is there, and shows it. -/
theorem UpToDate.exists_painted (h : w.UpToDate s origin tick) (hReady : s.Ready)
    (hSpread : Spread (Canvas.textSize s) (w.state.globalPosition origin) w.children)
    (hPointer : tick.pointer = none) :
    ∃ seen, s.framebuffer.overlay seen = s.framebuffer ∧
      Painted s (w.state.globalPosition origin) w seen := by
  obtain ⟨t, hStep, hGains⟩ := @exists_step s origin (Widget.markDirty w) hReady hSpread tick
  refine ⟨_, ?_, painted_repaint hSpread fun e he hVisible =>
    h.pressed?_followed hPointer he hVisible _⟩
  rw [← hGains.framebuffer]
  refine Framebuffer.ext_memory ?_ fun i => by rw [h.shown _ t hStep]
  rw [hGains.framebuffer]
  rfl

-- ---------------------------------------------------------------------------
-- Edits of a child
-- ---------------------------------------------------------------------------

section Arrange

variable {id : ChildId} {child : Element} {edit : StateEdit} {seen : Layer}

/-- A child after an edit of it or of another one. -/
theorem exists_of_getElem?_arrangeChild {i : Nat} {e' : Element} (hChild : w.child? id = some child)
    (h : (w.arrangeChild id edit).children[i]? = some e') :
    i ≠ id.slot ∧ w.children[i]? = some e' ∨
      i = id.slot ∧ e' = child.mapState edit.apply := by
  have hModify : (w.children.modify id.slot (Widget.mapState edit.apply))[i]? = some e' := h
  rw [List.getElem?_modify] at hModify
  obtain ⟨e, he, rfl⟩ := Option.map_eq_some_iff.mp hModify
  split
  · rename_i hSlot
    have hSame : w.children[id.slot]? = some child := hChild
    rw [hSlot, he] at hSame
    cases hSame
    exact .inr ⟨hSlot.symm, rfl⟩
  · rename_i hSlot
    exact .inl ⟨Ne.symm hSlot, he⟩

/-- A child that is visible and clean after an edit of the window's children was one before. -/
theorem exists_of_mem_arrangeChild (hChild : w.child? id = some child)
    (hClean : ∀ e ∈ w.children, e.state.visible = true → e.state.dirty = false) {e' : Element}
    (he' : e' ∈ (w.arrangeChild id edit).children)
    (hVisible : e'.state.visible = true) (hStill : e'.state.dirty = false) :
    ∃ e ∈ w.children, e.state = e'.state ∧ ∀ (measure : TextMeasure) (area : Rect),
      e'.picture measure area = e.picture measure area := by
  obtain ⟨i, hi⟩ := List.getElem?_of_mem he'
  rcases exists_of_getElem?_arrangeChild hChild hi with ⟨-, hSame⟩ | ⟨-, rfl⟩
  · exact ⟨e', List.mem_of_getElem? hSame, rfl, fun _ _ => rfl⟩
  · have hMem : child ∈ w.children := List.mem_of_getElem? hChild
    rw [Element.state_mapState] at hVisible hStill ⊢
    exact ⟨child, hMem, (StateEdit.apply_eq_self (hClean child hMem) hVisible hStill).symm,
      Element.picture_mapState _ child⟩

/-- Where no visible child is now there was none before, but for the points that the edited child
left. -/
theorem outside_of_not_vacated {place : Point} (hChild : w.child? id = some child)
    (hOutside : ∀ e ∈ (w.arrangeChild id edit).children,
      e.state.visible = true → (e.state.globalBounds place).contains p = false)
    (hKept : ¬(w.arrangeChild id edit).Vacated place child p) {e : Element}
    (he : e ∈ w.children) (hVisible : e.state.visible = true) :
    (e.state.globalBounds place).contains p = false := by
  obtain ⟨i, hi⟩ := List.getElem?_of_mem he
  by_cases hSlot : i = id.slot
  · have hSame : w.children[id.slot]? = some child := hChild
    rw [← hSlot, hi] at hSame
    cases hSame
    exact Bool.eq_false_iff.mpr fun hContains => hKept ⟨hContains, hOutside⟩
  · have hOther : (w.arrangeChild id edit).children[i]? = some e := by
      show (w.children.modify id.slot _)[i]? = _
      rw [List.getElem?_modify, hi]
      exact congrArg some (if_neg (Ne.symm hSlot))
    exact hOutside e (List.mem_of_getElem? hOther) hVisible

/-- The picture with the ground at the points that the child left. -/
def cleared (s : Screen) (place : Point) (child : Element) (w : Window Element) (seen : Layer) :
    Layer :=
  fun p => if w.Vacated place child p then s.look (w.ground place) p else seen p

theorem cleared_of_not_vacated {place : Point} (h : ¬w.Vacated place child p) (seen : Layer) :
    cleared s place child w seen p = seen p :=
  if_neg h

/-- **An edit of a child leaves the window on the screen**, once there is the ground at the points that
the child left. -/
theorem Painted.arrangeChild (h : Painted s (w.state.globalPosition origin) w seen)
    (hClean : ∀ e ∈ w.children, e.state.visible = true → e.state.dirty = false)
    (hChild : w.child? id = some child)
    (hSpread : Spread (Canvas.textSize s) (w.state.globalPosition origin)
      (w.arrangeChild id edit).children) :
    Painted s (w.state.globalPosition origin) (w.arrangeChild id edit)
      (cleared s (w.state.globalPosition origin) child (w.arrangeChild id edit) seen) where
  ground := by
    intro p hOutside c hGround
    by_cases hVacated : (w.arrangeChild id edit).Vacated (w.state.globalPosition origin) child p
    · exact (if_pos hVacated).trans hGround
    · rw [cleared_of_not_vacated hVacated]
      exact h.ground p
        (fun e he hVisible => outside_of_not_vacated hChild hOutside hVacated he hVisible) c hGround
  children := by
    intro e' he' hVisible hStill p c hLook
    have hContains := (hSpread.placed e' he' hVisible).within.contains hLook
    have hKept : ¬(w.arrangeChild id edit).Vacated (w.state.globalPosition origin) child p := by
      intro hVacated
      rw [hVacated.2 e' he' hVisible] at hContains
      cases hContains
    obtain ⟨e, he, hState, hPicture⟩ := exists_of_mem_arrangeChild hChild hClean he' hVisible hStill
    rw [hPicture, ← hState] at hLook
    rw [← hState] at hVisible hStill
    rw [cleared_of_not_vacated hKept]
    exact h.children e he hVisible hStill p c hLook

/-- **What an edit of a child leaves behind.** The memory of the screen has the size that its layout
asks for (`Framebuffer.sound_attach`), and its font, if it has one, was accepted. The screen shows the
window, no button of which is pressed; its visible children end inside the plane, have room for their
texts and do not overlap. One of the children is hidden, moved or resized, such that this still holds
of them. Then a step with a tick without a pointer comes to an end, and so does a repaint in full
after it, which leaves every byte of display memory as it is that does not belong to a point that the
child left to no other child. These points show what they did before the edit up to then, and
afterwards what a repaint of the window without its children would show. -/
theorem exists_step_arrangeChild (hSound : s.framebuffer.Sound)
    (hFont : ∀ font ∈ s.font, ∃ data, Font.load data = .ok font)
    (hArranged : w.Arranged (Canvas.textSize s) origin) (hPointer : tick.pointer = none)
    (hUpToDate : w.UpToDate s origin tick) (hChild : w.child? id = some child)
    (hRearranged : (w.arrangeChild id edit).Arranged (Canvas.textSize s)
      origin) :
    ∃ w₁ s₁ w₂ s₂ t,
      ((w.arrangeChild id edit).step origin tick).Ends s w₁ s₁ ∧
      (Widget.step origin tick (Widget.markDirty w₁)).Ends s₁ w₂ s₂ ∧
      (w.redraw (w.state.globalPosition origin)).Ends s () t ∧
      (∀ i, (∀ p, s.framebuffer.BelongsTo i p →
          ¬(w.arrangeChild id edit).Vacated
            (w.state.globalPosition origin) child p) →
        s₁.framebuffer.memory[i]? = s₂.framebuffer.memory[i]?) ∧
      ∀ i p, s.framebuffer.BelongsTo i p →
        (w.arrangeChild id edit).Vacated
          (w.state.globalPosition origin) child p →
        s₁.framebuffer.memory[i]? = s.framebuffer.memory[i]? ∧
          s₂.framebuffer.memory[i]? = t.framebuffer.memory[i]? := by
  have hReady : s.Ready := by
    refine ⟨hSound, fun font hMem => ?_⟩
    obtain ⟨data, hLoad⟩ := hFont font hMem
    exact Font.regular_of_load hLoad
  obtain ⟨seen, hSeen, hPainted⟩ := hUpToDate.exists_painted hReady hArranged.spread hPointer
  have hSpread : Spread (Canvas.textSize s) (w.state.globalPosition origin)
    (w.arrangeChild id edit).children := hRearranged.spread
  have hShows := shows_repaint_next tick hRearranged.spread
    (hPainted.arrangeChild hUpToDate.children_clean hChild hSpread)
  -- the step, the repaint after it, and the window on its own
  obtain ⟨s₁, hStep, hStepped⟩ := exists_step hReady hRearranged.spread tick
  have hMeasure : Canvas.textSize s₁ = Canvas.textSize s := Screen.textSize_of_font hStepped.font
  obtain ⟨s₂, hRepaint, hRepainted⟩ := @exists_step s₁ origin
    (Widget.markDirty (StepModel.next origin tick (w.arrangeChild id edit)))
    (hStepped.ready hReady) (by rw [hMeasure]; exact spread_next hRearranged.spread) tick
  rw [hMeasure, hStepped.look_eq] at hRepainted
  obtain ⟨t, hGround, hAlone⟩ := hReady.exists_drawAll (endsInPlane_ground w _ s.font)
  refine ⟨_, s₁, _, s₂, t, hStep, hRepaint, ends_redraw.mpr hGround, fun i hKept => ?_,
    fun i p hByte hVacated => ?_⟩
  · rw [hRepainted.framebuffer, hStepped.framebuffer, ← hSeen, Framebuffer.overlay_overlay,
      Framebuffer.overlay_overlay]
    refine Framebuffer.getElem?_overlay_congr hSound fun p hPixel => ?_
    have hAdded := congrFun hShows.onto_eq p
    simp only [Layer.onto, cleared_of_not_vacated (hKept p hPixel)] at hAdded ⊢
    exact hAdded.symm
  · have hNothing : s.look (StepModel.drawing (Canvas.textSize s) origin tick
        (w.arrangeChild id edit)) p = none := by
      have hClean : (w.arrangeChild id edit).state.dirty = false := hUpToDate.clean
      rw [look_drawing_of_outside tick hRearranged.spread hVacated.2, hClean]
      rfl
    have hUnder := look_repaint_next_of_outside tick hRearranged.spread hVacated.2
    constructor
    · rw [hStepped.framebuffer, ← Framebuffer.overlay_empty s.framebuffer,
        Framebuffer.overlay_overlay]
      refine Framebuffer.getElem?_overlay_congr_at hSound hByte ?_
      rw [Layer.onto_empty, hNothing]
      rfl
    · rw [hRepainted.framebuffer, hStepped.framebuffer, Framebuffer.overlay_overlay,
        hAlone.framebuffer]
      refine Framebuffer.getElem?_overlay_congr_at hSound hByte ?_
      rw [Layer.onto, hNothing, Option.or_none, hUnder]
      rfl

end Arrange

end Step

/-- A picture of two pixels, the first of which shows a button and the second one the ground of a
window. -/
def twoPixels : Screen where
  framebuffer := ⟨⟨2, 1, 6, .rgb⟩, #[0x23, 0x86, 0x36, 0x16, 0x1B, 0x22]⟩
  font := none
  background := .black
  dirty := true

/-- A window without border, and a button at its left end. -/
def buttonOnGround : Window Element where
  state := { position := .zero, size := ⟨2, 1⟩, visible := true, dirty := false }
  style := Style.standard.withFrame 0 .black
  capacity := 1
  children := [.button (Widget.clearDirty (Button.new ⟨0, 0, 1, 1⟩ "" .standard))]

/-- The same window with the button hidden. -/
def buttonHidden : Window Element := buttonOnGround.arrangeChild ⟨0⟩ (.setVisible false)

/-- A repaint in full of the window leaves the picture as it is. -/
theorem run_repaint_buttonOnGround :
    (Widget.step .zero ⟨10, none⟩ (Widget.markDirty buttonOnGround)).run twoPixels =
      .done buttonOnGround twoPixels [.windowRedrawn ⟨0, 0, 2, 1⟩, .childStepped 0] := rfl

theorem sound_twoPixels : twoPixels.framebuffer.Sound := ⟨rfl, by decide, by decide⟩

theorem upToDate_buttonOnGround : buttonOnGround.UpToDate twoPixels .zero ⟨10, none⟩ where
  clean := rfl
  children_clean := by decide
  released := by
    intro b hb _
    cases List.mem_singleton.mp hb
    rfl
  shown := by
    intro w' s' hEnds
    rw [((Paint.ends_iff_of_run run_repaint_buttonOnGround).mp hEnds).2]

theorem arranged_buttonOnGround : buttonOnGround.Arranged (Canvas.textSize twoPixels) .zero :=
  arranged_of_child rfl (by decide) (by decide) fun _ => ⟨⟨0, 0⟩, rfl, by decide, by decide⟩

theorem arranged_buttonHidden : buttonHidden.Arranged (Canvas.textSize twoPixels) .zero :=
  arranged_of_child rfl (by decide) (by decide) fun hVisible => nomatch hVisible

theorem exists_step_arrangeChild_hidden :
    buttonOnGround.UpToDate twoPixels .zero ⟨10, none⟩ ∧
    ∃ w₁ s₁ w₂ s₂ t,
      (buttonHidden.step .zero ⟨10, none⟩).Ends twoPixels w₁ s₁ ∧
      (Widget.step .zero ⟨10, none⟩ (Widget.markDirty w₁)).Ends s₁ w₂ s₂ ∧
      (buttonOnGround.redraw .zero).Ends twoPixels () t ∧
      s₁.framebuffer.memory[0]? = some 0x23 ∧
      s₂.framebuffer.memory[0]? = t.framebuffer.memory[0]? ∧
      s₁.framebuffer.memory[3]? = s₂.framebuffer.memory[3]? := by
  have hFont : ∀ font ∈ twoPixels.font, ∃ data, Font.load data = .ok font := fun _ h => nomatch h
  obtain ⟨w₁, s₁, w₂, s₂, t, hStep, hRepaint, hAlone, hKept, hVacated⟩ :=
    exists_step_arrangeChild sound_twoPixels hFont arranged_buttonOnGround rfl
      upToDate_buttonOnGround (show buttonOnGround.child? ⟨0⟩ = some _ from rfl)
      arranged_buttonHidden
  obtain ⟨hBefore, hAfter⟩ := hVacated 0 ⟨0, 0⟩ ⟨by decide, by decide⟩ (by decide)
  refine ⟨upToDate_buttonOnGround, w₁, s₁, w₂, s₂, t, hStep, hRepaint, hAlone, hBefore, hAfter,
    hKept 3 fun p hPixel => ?_⟩
  have hSecond : twoPixels.framebuffer.BelongsTo 3 ⟨1, 0⟩ := ⟨by decide, by decide⟩
  rw [hPixel.unique sound_twoPixels hSecond]
  decide

/-- The button is hidden, and there is no other child; but after a step its pixel is still that of the
button, until the window is repainted. -/
theorem hidden_button_remains :
    twoPixels.framebuffer.Sound ∧ twoPixels.font = none ∧
    buttonOnGround.Arranged (Canvas.textSize twoPixels) .zero ∧
    buttonHidden.Arranged (Canvas.textSize twoPixels) .zero ∧
    buttonOnGround.UpToDate twoPixels .zero ⟨10, none⟩ ∧
    (∀ e ∈ buttonOnGround.children, e.state.visible = true ∧ ∀ p,
      (e.state.globalBounds .zero).contains p = true →
        (buttonOnGround.area .zero).contains p = true) ∧
    ∃ w₁ s₁ w₂ s₂,
      (buttonHidden.step .zero ⟨10, none⟩).Ends twoPixels w₁ s₁ ∧
      (Widget.step .zero ⟨10, none⟩ (Widget.markDirty w₁)).Ends s₁ w₂ s₂ ∧
      s₁.framebuffer.memory[0]? = some 0x23 ∧ s₂.framebuffer.memory[0]? = some 0x16 := by
  refine ⟨sound_twoPixels, rfl, arranged_buttonOnGround, arranged_buttonHidden,
    upToDate_buttonOnGround, List.forall_mem_singleton.mpr ⟨rfl, fun p hContains => ?_⟩,
    _, _, _, _, .of_run rfl, .of_run rfl, rfl, rfl⟩
  have hPoint : (⟨0, 0, 1, 1⟩ : Rect).contains p = true := hContains
  show (⟨0, 0, 2, 1⟩ : Rect).contains p = true
  rw [Rect.contains_iff, Rect.toNat_right, Rect.toNat_bottom] at hPoint ⊢
  simp only [UInt64.reduceToNat] at hPoint ⊢
  omega

end Window

end TouchPanel
