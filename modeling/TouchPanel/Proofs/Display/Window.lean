import TouchPanel.Proofs.Display.Element
import TouchPanel.Proofs.Step.Stays

/-!
# Windows of labels and buttons on a screen

A step of a window repaints what is dirty and leaves the rest as it is on the screen. This is good
enough when the children do not get in each other's way (`Spread`), as long as what is not dirty
is on the screen already (`Window.Painted`).

* `Window.painted_next` — a step of such a window keeps what is not dirty on the screen, and adds
  what is.
* `Window.shows_redraw` — a repaint of all of it adds nothing to a window that is on the screen.
-/

namespace TouchPanel

-- ---------------------------------------------------------------------------
-- Elements side by side
-- ---------------------------------------------------------------------------

/-- The visible ones of the elements have room for their texts, and no point belongs to two of
them. -/
structure Spread (measure : TextMeasure) (place : Point) (elements : List Element) : Prop where
  placed : ∀ e ∈ elements, e.state.visible = true →
    e.Placed measure (e.state.globalBounds place)
  apart : ∀ (i j : Nat) (e f : Element), elements[i]? = some e → elements[j]? = some f → i ≠ j →
    e.state.visible = true → f.state.visible = true →
      ∀ p, (e.state.globalBounds place).contains p = true →
        (f.state.globalBounds place).contains p = false

/-- No point belongs to both elements, if both are visible. -/
def Element.Apart (place : Point) (e f : Element) : Prop :=
  e.state.visible = true → f.state.visible = true →
    ∀ p, ¬((e.state.globalBounds place).contains p = true ∧
      (f.state.globalBounds place).contains p = true)

theorem Element.Apart.symm {place : Point} {e f : Element} (h : e.Apart place f) :
    f.Apart place e :=
  fun hVisibleF hVisibleE p hBoth => h hVisibleE hVisibleF p hBoth.symm

/-- It is enough to compare each of the elements with those after it. -/
theorem spread_iff_pairwise {measure : TextMeasure} {place : Point} {elements : List Element} :
    Spread measure place elements ↔
      (∀ e ∈ elements, e.state.visible = true →
        e.Placed measure (e.state.globalBounds place)) ∧
      elements.Pairwise (Element.Apart place) := by
  rw [List.pairwise_iff_getElem]
  refine ⟨fun h => ⟨h.placed, fun i j hi hj hLt hVisibleE hVisibleF p hBoth => ?_⟩,
    fun ⟨hPlaced, hPairs⟩ => ⟨hPlaced, fun i j e f hi hj hNe hVisibleE hVisibleF p hContains => ?_⟩⟩
  · have hApart := h.apart i j _ _ (List.getElem?_eq_getElem hi) (List.getElem?_eq_getElem hj)
      (Nat.ne_of_lt hLt) hVisibleE hVisibleF p hBoth.1
    rw [hBoth.2] at hApart
    cases hApart
  · obtain ⟨hLtI, rfl⟩ := List.getElem?_eq_some_iff.mp hi
    obtain ⟨hLtJ, rfl⟩ := List.getElem?_eq_some_iff.mp hj
    have hApart : elements[i].Apart place elements[j] := by
      rcases Nat.lt_or_gt_of_ne hNe with hLt | hGt
      · exact hPairs i j hLtI hLtJ hLt
      · exact (hPairs j i hLtJ hLtI hGt).symm
    exact Bool.eq_false_iff.mpr fun hOther => hApart hVisibleE hVisibleF p ⟨hContains, hOther⟩

/-- Elements that do not get in each other's way do not in another order either. -/
theorem Spread.perm {measure : TextMeasure} {place : Point} {elements elements' : List Element}
    (h : Spread measure place elements) (hPerm : elements'.Perm elements) :
    Spread measure place elements' := by
  obtain ⟨hPlaced, hPairs⟩ := spread_iff_pairwise.mp h
  exact spread_iff_pairwise.mpr ⟨fun e he => hPlaced e (hPerm.mem_iff.mp he),
    (hPerm.pairwise_iff Element.Apart.symm).mpr hPairs⟩

/-- Elements that stay where they are do not get in each other's way, if their texts have room. -/
theorem Spread.of_stays {measure : TextMeasure} {place : Point} {elements elements' : List Element}
    (h : Spread measure place elements)
    (hStays : ∀ (i : Nat) (e' : Element), elements'[i]? = some e' →
      ∃ e, elements[i]? = some e ∧ e.Stays e')
    (hFits : ∀ e' ∈ elements', e'.state.visible = true → measure.Fits e'.text e'.state.size) :
    Spread measure place elements' where
  placed := by
    intro e' he' hVisible
    have hFitsHere := hFits e' he' hVisible
    obtain ⟨i, hi⟩ := List.getElem?_of_mem he'
    obtain ⟨e, he, hSame⟩ := hStays i e' hi
    rw [hSame.visible] at hVisible
    obtain ⟨hRight, hBottom, -⟩ := h.placed e (List.mem_of_getElem? he) hVisible
    rw [← hSame.globalBounds] at hRight hBottom
    exact ⟨hRight, hBottom, hFitsHere⟩
  apart := by
    intro i j e' f' hi hj hNe hVisibleE hVisibleF p
    obtain ⟨e, he, hSameE⟩ := hStays i e' hi
    obtain ⟨f, hf, hSameF⟩ := hStays j f' hj
    rw [hSameE.visible] at hVisibleE
    rw [hSameF.visible] at hVisibleF
    rw [hSameE.globalBounds, hSameF.globalBounds]
    exact h.apart i j e f he hf hNe hVisibleE hVisibleF p

theorem Spread.map {measure : TextMeasure} {place : Point} {elements : List Element}
    (h : Spread measure place elements) {f : Element → Element}
    (hStays : ∀ e : Element, e.Stays (f e)) (hText : ∀ e : Element, (f e).text = e.text) :
    Spread measure place (elements.map f) := by
  refine h.of_stays (fun i e' he' => ?_) fun e' he' hVisible => ?_
  · rw [List.getElem?_map] at he'
    obtain ⟨e, he, rfl⟩ := Option.map_eq_some_iff.mp he'
    exact ⟨e, he, hStays e⟩
  · obtain ⟨e, he, rfl⟩ := List.mem_map.mp he'
    rw [(hStays e).visible] at hVisible
    have hFits := (h.placed e he hVisible).fits
    rw [← (hStays e).globalBounds] at hFits
    rw [hText]
    exact hFits

section Drawings

variable {s : Screen} {place : Point} {tick : Tick} {elements : List Element} {p : Point}

/-- A child draws in its area only, and only if it is visible. -/
theorem Spread.contains_of_look (h : Spread (Canvas.textSize s) place elements) {e : Element}
    (he : e ∈ elements) {c : Color}
    (hLook : s.look (Window.childDrawing (Canvas.textSize s) place tick e) p = some c) :
    e.state.visible = true ∧ (e.state.globalBounds place).contains p = true := by
  rw [Window.childDrawing] at hLook
  split at hLook
  · rename_i hVisible
    refine ⟨hVisible, ?_⟩
    simp only [StepModel.drawing] at hLook
    split at hLook
    · exact ((h.placed e he hVisible).followed place tick).within.contains hLook
    · cases hLook
  · cases hLook

/-- What a child draws can be drawn. -/
theorem Spread.endsInPlane (h : Spread (Canvas.textSize s) place elements) {e : Element}
    (he : e ∈ elements) :
    ∀ p ∈ Window.childDrawing (Canvas.textSize s) place tick e, p.EndsInPlane s.font := by
  intro p hp
  rw [Window.childDrawing] at hp
  split at hp
  · rename_i hVisible
    simp only [StepModel.drawing] at hp
    split at hp
    · exact ((h.placed e he hVisible).followed place tick).endsInPlane p hp
    · cases hp
  · cases hp

/-- In the area of a visible child there is what the child draws. -/
theorem Spread.look_children (h : Spread (Canvas.textSize s) place elements) {i : Nat}
    {e : Element} (he : elements[i]? = some e) (hVisible : e.state.visible = true)
    (hContains : (e.state.globalBounds place).contains p = true) :
    s.look (elements.flatMap (Window.childDrawing (Canvas.textSize s) place tick)) p =
      s.look (Window.childDrawing (Canvas.textSize s) place tick e) p := by
  cases hAll : s.look (elements.flatMap (Window.childDrawing (Canvas.textSize s) place tick)) p with
  | none => exact (Screen.look_flatMap_eq_none_iff.mp hAll e (List.mem_of_getElem? he)).symm
  | some c =>
    obtain ⟨j, f, hf, hLook⟩ := Screen.exists_of_look_flatMap hAll
    obtain ⟨hVisibleF, hContainsF⟩ := h.contains_of_look (List.mem_of_getElem? hf) hLook
    -- the child that draws the point can only be this one
    have hSame : i = j := by
      refine Decidable.byContradiction fun hNe => ?_
      rw [h.apart i j e f he hf hNe hVisible hVisibleF p hContains] at hContainsF
      cases hContainsF
    rw [← hSame, he] at hf
    cases hf
    exact hLook.symm

/-- Elements that are painted in full look like themselves. -/
theorem look_childDrawing_of_dirty {e : Element} (hVisible : e.state.visible = true)
    (hDirty : (e.followed place tick).state.dirty = true) :
    s.look (Window.childDrawing (Canvas.textSize s) place tick e) =
      s.look ((e.followed place tick).picture (Canvas.textSize s)
        (e.state.globalBounds place)) := by
  simp only [Window.childDrawing, StepModel.drawing, hDirty, if_true]
  rw [if_pos (show (Widget.state e).visible = true from hVisible)]

theorem look_childDrawing_of_clean {e : Element}
    (hClean : (e.followed place tick).state.dirty = false) :
    s.look (Window.childDrawing (Canvas.textSize s) place tick e) = .empty := by
  simp only [Window.childDrawing, StepModel.drawing, hClean, Bool.false_eq_true, if_false,
    ite_self]
  rfl

end Drawings

-- ---------------------------------------------------------------------------
-- What is on the screen
-- ---------------------------------------------------------------------------

namespace Window

/-- What is seen on the screen is the ground of the window, except where the visible children
are, and all of the visible children that are clean. -/
structure Painted (s : Screen) (place : Point) (w : Window Element) (seen : Layer) : Prop where
  ground : ∀ p, (∀ e ∈ w.children, e.state.visible = true →
      (e.state.globalBounds place).contains p = false) →
    ∀ c, s.look (w.ground place) p = some c → seen p = some c
  children : ∀ e ∈ w.children, e.state.visible = true → e.state.dirty = false →
    seen.Shows (s.look (e.picture (Canvas.textSize s) (e.state.globalBounds place)))

section Step

variable {s : Screen} {origin p : Point} {tick : Tick} {w : Window Element} {seen : Layer}

theorem spread_marked {measure : TextMeasure} {place : Point}
    (h : Spread measure place w.children) : Spread measure place w.marked := by
  unfold marked
  split
  · exact h.map (fun e => e.stays_mapState_dirty true) (Element.text_mapState _)
  · exact h

/-- A child looks the same after its turn if it does not draw itself. -/
theorem picture_next {place : Point} {e : Element}
    (hClean : (e.followed place tick).state.dirty = false) (measure : TextMeasure) (area : Rect) :
    (StepModel.next place tick e).picture measure area = e.picture measure area := by
  have hPressed : (e.followed place tick).pressed? = e.pressed? := by
    refine Decidable.byContradiction fun hNe => ?_
    rw [(e.dirty_followed place tick).mpr (.inr hNe)] at hClean
    cases hClean
  exact (Element.picture_mapState _ _ measure area).trans
    (Element.picture_followed hPressed measure area)

theorem spread_next {measure : TextMeasure}
    (h : Spread measure (w.state.globalPosition origin) w.children) :
    Spread measure (w.state.globalPosition origin) (StepModel.next origin tick w).children :=
  (spread_marked h).map (stays_nextChild _ tick) (text_nextChild _ tick)

/-- A window is painted without any text. -/
theorem endsInPlane_ground (w : Window Element) (place : Point) (font : Option Font) :
    ∀ p ∈ w.ground place, p.EndsInPlane font := by
  intro p hp
  rcases List.mem_cons.mp hp with rfl | hFrame
  · trivial
  · split at hFrame
    · obtain rfl := List.mem_singleton.mp hFrame
      trivial
    · cases hFrame

/-- A step of a window on a screen comes to an end, and adds what it draws. -/
theorem exists_step (hReady : s.Ready)
    (hSpread : Spread (Canvas.textSize s) (w.state.globalPosition origin) w.children)
    (tick : Tick) :
    ∃ t, (w.step origin tick).Ends s (StepModel.next origin tick w) t ∧
      s.Gains t (s.look (StepModel.drawing (Canvas.textSize s) origin tick w)) := by
  have hMarked := spread_marked hSpread
  have hDrawable : StepModel.Drawable (Canvas.textSize s) origin tick w := by
    intro e he hVisible _
    exact ((hMarked.placed e he hVisible).followed _ tick).writable
  have hPlane : ∀ p ∈ StepModel.drawing (Canvas.textSize s) origin tick w,
      p.EndsInPlane s.font := by
    intro p hp
    rcases List.mem_append.mp hp with hGround | hChildren
    · split at hGround
      · exact endsInPlane_ground w _ s.font p hGround
      · cases hGround
    · obtain ⟨e, he, hChild⟩ := List.mem_flatMap.mp hChildren
      exact hMarked.endsInPlane he p hChild
  obtain ⟨t, hDrawAll, hGains⟩ := hReady.exists_drawAll hPlane
  exact ⟨t, w.sound_of_elements.ends_step.mpr ⟨rfl, hDrawable, hDrawAll⟩, hGains⟩

theorem look_drawing (s : Screen) (origin : Point) (tick : Tick) (w : Window Element) :
    s.look (StepModel.drawing (Canvas.textSize s) origin tick w) =
      (s.look (w.marked.flatMap
        (childDrawing (Canvas.textSize s) (w.state.globalPosition origin) tick))).onto
      (s.look (if w.state.dirty then w.ground (w.state.globalPosition origin) else [])) :=
  s.look_append _ _

/-- Outside of its visible children a window that is stepped shows its ground, if it is painted or
was there before. -/
theorem shows_ground_next (hSpread : Spread (Canvas.textSize s) (w.state.globalPosition origin)
      w.children)
    (hSeen : w.state.dirty = true ∨ Painted s (w.state.globalPosition origin) w seen)
    (hOutside : ∀ e ∈ (StepModel.next origin tick w).children, e.state.visible = true →
      (e.state.globalBounds (w.state.globalPosition origin)).contains p = false) {c : Color}
    (hGround : s.look (w.ground (w.state.globalPosition origin)) p = some c) :
    (s.look (StepModel.drawing (Canvas.textSize s) origin tick w)).onto seen p = some c := by
  have hAway : ∀ e ∈ w.marked, e.state.visible = true →
      (e.state.globalBounds (w.state.globalPosition origin)).contains p = false := by
    intro e he hVisible
    have hStays := stays_nextChild (w.state.globalPosition origin) tick e
    rw [← hStays.globalBounds]
    exact hOutside _ (List.mem_map_of_mem he) (hStays.visible.trans hVisible)
  have hChildren : s.look (w.marked.flatMap (childDrawing (Canvas.textSize s)
      (w.state.globalPosition origin) tick)) p = none := by
    rw [Screen.look_flatMap_eq_none_iff]
    intro e he
    rw [Option.eq_none_iff_forall_ne_some]
    intro c hLook
    obtain ⟨hVisible, hContains⟩ := (spread_marked hSpread).contains_of_look he hLook
    rw [hAway e he hVisible] at hContains
    cases hContains
  rw [look_drawing, Layer.onto_assoc, Layer.onto_of_eq_none hChildren]
  cases hDirty : w.state.dirty with
  | true => exact Layer.onto_of_eq_some hGround seen
  | false =>
    have hPainted := hSeen.resolve_left (by simp [hDirty])
    have hStill : w.marked = w.children := by rw [marked, hDirty, if_neg (by decide)]
    rw [hStill] at hAway
    exact hPainted.ground p hAway c hGround

/-- A visible child shows all of itself after a step, because it draws itself or was there
before. -/
theorem shows_child_next (hSpread : Spread (Canvas.textSize s) (w.state.globalPosition origin)
      w.children)
    (hSeen : w.state.dirty = true ∨ Painted s (w.state.globalPosition origin) w seen)
    {e' : Element} (he' : e' ∈ (StepModel.next origin tick w).children)
    (hVisible : e'.state.visible = true) :
    ((s.look (StepModel.drawing (Canvas.textSize s) origin tick w)).onto seen).Shows
      (s.look (e'.picture (Canvas.textSize s)
        (e'.state.globalBounds (w.state.globalPosition origin)))) := by
  intro p c hLook
  obtain ⟨i, hi⟩ := List.getElem?_of_mem he'
  have hNext : (w.marked.map (nextChild (w.state.globalPosition origin) tick))[i]? =
      some e' := hi
  rw [List.getElem?_map] at hNext
  obtain ⟨e, he, rfl⟩ := Option.map_eq_some_iff.mp hNext
  have hStays := stays_nextChild (w.state.globalPosition origin) tick e
  have hContains := ((spread_next hSpread).placed _ he' hVisible).within.contains hLook
  rw [hStays.visible] at hVisible
  rw [hStays.globalBounds] at hLook hContains
  rw [nextChild, if_pos (show (Widget.state e).visible = true from hVisible)] at hLook
  -- no other child is drawn here
  have hChildren : s.look (w.marked.flatMap (childDrawing (Canvas.textSize s)
      (w.state.globalPosition origin) tick)) p =
      s.look (childDrawing (Canvas.textSize s) (w.state.globalPosition origin) tick e) p :=
    (spread_marked hSpread).look_children he hVisible hContains
  rw [look_drawing]
  cases hDirty : (e.followed (w.state.globalPosition origin) tick).state.dirty with
  | true =>
    -- the child is painted now
    rw [look_childDrawing_of_dirty hVisible hDirty] at hChildren
    refine Layer.onto_of_eq_some (Layer.onto_of_eq_some (hChildren.trans ?_) _) _
    rw [← hLook]
    exact congrArg (fun drawing => s.look drawing p)
      (Element.picture_mapState _ _ _ _).symm
  | false =>
    -- the child was painted before, and is not painted over
    rw [look_childDrawing_of_clean hDirty] at hChildren
    rw [picture_next hDirty] at hLook
    obtain ⟨e₀, he₀, -, hSame, hMarkedDirty⟩ := exists_of_getElem?_marked he
    have hClean : e.state.dirty = false := by
      rw [Bool.eq_false_iff]
      intro hNot
      rw [(e.dirty_followed _ tick).mpr (.inl hNot)] at hDirty
      cases hDirty
    have hWindow : w.state.dirty = false := by
      rw [Bool.eq_false_iff]
      intro hNot
      rw [hMarkedDirty hNot] at hClean
      cases hClean
    have hPainted := hSeen.resolve_left (by simp [hWindow])
    obtain rfl := hSame hWindow
    rw [Layer.onto_assoc, Layer.onto_of_eq_none hChildren, hWindow, if_neg (by decide)]
    exact hPainted.children e (List.mem_of_getElem? he₀) hVisible hClean p c hLook

/-- **A step repaints what is dirty.** If what was not dirty was on the screen, then the window
and all of its visible children are afterwards. -/
theorem painted_next (hSpread : Spread (Canvas.textSize s) (w.state.globalPosition origin)
      w.children)
    (hSeen : w.state.dirty = true ∨ Painted s (w.state.globalPosition origin) w seen) :
    Painted s (w.state.globalPosition origin) (StepModel.next origin tick w)
      ((s.look (StepModel.drawing (Canvas.textSize s) origin tick w)).onto seen) where
  ground _ hOutside _ hGround := shows_ground_next hSpread hSeen hOutside hGround
  children _ he hVisible _ := shows_child_next hSpread hSeen he hVisible

-- ---------------------------------------------------------------------------
-- Repaints
-- ---------------------------------------------------------------------------

/-- All visible children are clean after a step. -/
theorem dirty_next_of_mem {e : Element} (he : e ∈ (StepModel.next origin tick w).children)
    (hVisible : e.state.visible = true) : e.state.dirty = false := by
  obtain ⟨e₁, -, rfl⟩ := List.mem_map.mp he
  have hStays := stays_nextChild (w.state.globalPosition origin) tick e₁
  rw [hStays.visible] at hVisible
  rw [nextChild, if_pos (show (Widget.state e₁).visible = true from hVisible), Element.state_next]
  rfl

/-- After a step, a step with the same tick presses or releases no visible button. -/
theorem pressed?_followed_next {e : Element}
    (he : e ∈ (StepModel.next origin tick w).children) (hVisible : e.state.visible = true) :
    (e.followed (w.state.globalPosition origin) tick).pressed? = e.pressed? := by
  obtain ⟨e₁, -, rfl⟩ := List.mem_map.mp he
  have hStays := stays_nextChild (w.state.globalPosition origin) tick e₁
  rw [hStays.visible] at hVisible
  have hArea := hStays.globalBounds (w.state.globalPosition origin)
  rw [nextChild, if_pos (show (Widget.state e₁).visible = true from hVisible)] at hArea ⊢
  cases e₁ with
  | label l => rfl
  | button b =>
    refine congrArg some ?_
    refine Eq.trans ?_ (b.pressed_track_of_tracked _ tick.pointer rfl rfl)
    exact congrArg (fun area => (Button.track area tick.pointer _).1.pressed) hArea

/-- A child that is made dirty draws itself as it looks already, if the tick neither presses nor
releases it. -/
theorem look_childDrawing_markDirty {place : Point} {e : Element}
    (hVisible : e.state.visible = true)
    (hSettled : (e.followed place tick).pressed? = e.pressed?) :
    s.look (childDrawing (Canvas.textSize s) place tick (Widget.markDirty e)) =
      s.look (e.picture (Canvas.textSize s) (e.state.globalBounds place)) := by
  have hStays : e.Stays (Widget.markDirty e) := e.stays_mapState_dirty true
  have hDirty : ((Widget.markDirty e).followed place tick).state.dirty = true := by
    refine (Element.dirty_followed _ tick _).mpr (.inl ?_)
    exact congrArg WidgetState.dirty (e.state_mapState .markDirty)
  have hPressed : ((Widget.markDirty e).followed place tick).pressed? =
      (Widget.markDirty e).pressed? := by
    rw [Element.pressed?_followed_markDirty, hSettled]
    exact (Element.pressed?_mapState .markDirty e).symm
  rw [look_childDrawing_of_dirty (hStays.visible.trans hVisible) hDirty,
    Element.picture_followed hPressed, hStays.globalBounds]
  exact congrArg s.look (Element.picture_mapState _ e _ _)

/-- **A repaint of what is on the screen adds nothing.** -/
theorem shows_redraw (hSpread : Spread (Canvas.textSize s) (w.state.globalPosition origin)
      w.children)
    (hPainted : Painted s (w.state.globalPosition origin) w seen)
    (hClean : ∀ e ∈ w.children, e.state.visible = true → e.state.dirty = false)
    (hSettled : ∀ e ∈ w.children, e.state.visible = true →
      (e.followed (w.state.globalPosition origin) tick).pressed? = e.pressed?) :
    seen.Shows (s.look (StepModel.drawing (Canvas.textSize s) origin tick
      (Widget.markDirty w))) := by
  have hMarked : Spread (Canvas.textSize s) (w.state.globalPosition origin)
      (w.children.map Widget.markDirty) :=
    hSpread.map (fun e => e.stays_mapState_dirty true) (Element.text_mapState _)
  have hDrawing : s.look (StepModel.drawing (Canvas.textSize s) origin tick
      (Widget.markDirty w)) =
      (s.look ((w.children.map Widget.markDirty).flatMap
        (childDrawing (Canvas.textSize s) (w.state.globalPosition origin) tick))).onto
      (s.look (w.ground (w.state.globalPosition origin))) :=
    look_drawing s origin tick (Widget.markDirty w)
  rw [hDrawing]
  intro p c hLook
  rcases Option.or_eq_some_iff.mp hLook with hChildren | ⟨hNone, hGround⟩
  · obtain ⟨i, e₁, hi, hChild⟩ := Screen.exists_of_look_flatMap hChildren
    obtain ⟨hVisible, -⟩ := hMarked.contains_of_look (List.mem_of_getElem? hi) hChild
    obtain ⟨e, he, rfl⟩ := List.mem_map.mp (List.mem_of_getElem? hi)
    have hStays : e.Stays (Widget.markDirty e) := e.stays_mapState_dirty true
    rw [hStays.visible] at hVisible
    rw [look_childDrawing_markDirty hVisible (hSettled e he hVisible)] at hChild
    exact hPainted.children e he hVisible (hClean e he hVisible) p c hChild
  · -- the children cover their areas, so the ground is seen outside of them only
    have hOutside : ∀ e ∈ w.children, e.state.visible = true →
        (e.state.globalBounds (w.state.globalPosition origin)).contains p = false := by
      intro e he hVisible
      rw [Bool.eq_false_iff]
      intro hNot
      have hCovered := Element.isSome_look_picture (s := s) (e := e) (Canvas.textSize s) hNot
      rw [← look_childDrawing_markDirty hVisible (hSettled e he hVisible),
        Screen.look_flatMap_eq_none_iff.mp hNone _ (List.mem_map_of_mem he)] at hCovered
      cases hCovered
    exact hPainted.ground p hOutside c hGround

end Step

end Window

end TouchPanel
