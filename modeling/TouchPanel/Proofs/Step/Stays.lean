import TouchPanel.Proofs.Step.Window

/-!
# Widgets that stay where they are

A step moves no widget. It sets and clears dirty flags and follows the pointer, and what it leaves
is of the same kind, in the same place, and shows the same text.

* `Element.Stays`, `Window.Stays` — the element or the window is where it was.
* `Window.Persists` — the window is where it was, and its children show the same texts.
-/

namespace TouchPanel

namespace Element

/-- The element `e'` is of the same kind as `e` and in the same place. -/
structure Stays (e e' : Element) : Prop where
  state : e'.state = { e.state with dirty := e'.state.dirty }
  kind : e'.label?.isSome = e.label?.isSome

theorem Stays.refl (e : Element) : e.Stays e := ⟨rfl, rfl⟩

theorem Stays.trans {e f g : Element} (hef : e.Stays f) (hfg : f.Stays g) : e.Stays g where
  state := by rw [hfg.state, hef.state]
  kind := hfg.kind.trans hef.kind

theorem Stays.visible {e e' : Element} (h : e.Stays e') :
    e'.state.visible = e.state.visible := by
  rw [h.state]

theorem Stays.globalBounds {e e' : Element} (h : e.Stays e') (place : Point) :
    e'.state.globalBounds place = e.state.globalBounds place := by
  rw [h.state]
  rfl

theorem stays_mapState_dirty (e : Element) (dirty : Bool) :
    e.Stays (e.mapState fun state => { state with dirty }) := by
  cases e <;> exact ⟨rfl, rfl⟩

theorem stays_followed (origin : Point) (tick : Tick) (e : Element) :
    e.Stays (e.followed origin tick) where
  state := e.state_followed origin tick
  kind := by cases e <;> rfl

end Element

namespace Window

section Children

variable {w : Window Element}

/-- The children when their turn comes are those from before, dirty if the window was. -/
theorem exists_of_getElem?_marked {i : Nat} {e : Element} (h : w.marked[i]? = some e) :
    ∃ e₀, w.children[i]? = some e₀ ∧ e₀.Stays e ∧ (w.state.dirty = false → e = e₀) ∧
      (w.state.dirty = true → e.state.dirty = true) := by
  unfold marked at h
  cases hDirty : w.state.dirty with
  | true =>
    rw [hDirty, if_pos rfl, List.getElem?_map] at h
    obtain ⟨e₀, he₀, rfl⟩ := Option.map_eq_some_iff.mp h
    refine ⟨e₀, he₀, e₀.stays_mapState_dirty true, fun h => (nomatch h), fun _ => ?_⟩
    exact congrArg WidgetState.dirty (e₀.state_mapState .markDirty)
  | false =>
    rw [hDirty, if_neg (by decide)] at h
    exact ⟨e, h, .refl e, fun _ => rfl, fun h => nomatch h⟩

theorem stays_nextChild (place : Point) (tick : Tick) (e : Element) :
    e.Stays (nextChild place tick e) := by
  unfold nextChild
  split
  · exact (e.stays_followed place tick).trans (Element.stays_mapState_dirty _ false)
  · exact .refl e

theorem text_nextChild (place : Point) (tick : Tick) (e : Element) :
    (nextChild place tick e).text = e.text := by
  unfold nextChild
  split
  · exact (Element.text_mapState _ _).trans (e.text_followed place tick)
  · rfl

end Children

/-- The window `w'` is in the same place as `w`, and so are its children. -/
structure Stays (w w' : Window Element) : Prop where
  state : w'.state = { w.state with dirty := w'.state.dirty }
  children : ∀ (i : Nat) (e' : Element), w'.children[i]? = some e' →
    ∃ e, w.children[i]? = some e ∧ e.Stays e'

theorem Stays.refl (w : Window Element) : w.Stays w := ⟨rfl, fun _ e he => ⟨e, he, .refl e⟩⟩

theorem Stays.trans {u v w : Window Element} (huv : u.Stays v) (hvw : v.Stays w) : u.Stays w where
  state := by rw [hvw.state, huv.state]
  children := by
    intro i g hg
    obtain ⟨f, hf, hfg⟩ := hvw.children i g hg
    obtain ⟨e, he, hef⟩ := huv.children i f hf
    exact ⟨e, he, hef.trans hfg⟩

theorem Stays.globalPosition {w w' : Window Element} (h : w.Stays w') (origin : Point) :
    w'.state.globalPosition origin = w.state.globalPosition origin := by
  rw [h.state]
  rfl

theorem stays_next (origin : Point) (tick : Tick) (w : Window Element) :
    w.Stays (StepModel.next origin tick w) where
  state := rfl
  children := by
    intro i e' he'
    have hNext : (w.marked.map (nextChild (w.state.globalPosition origin) tick))[i]? =
        some e' := he'
    rw [List.getElem?_map] at hNext
    obtain ⟨e, he, rfl⟩ := Option.map_eq_some_iff.mp hNext
    obtain ⟨e₀, he₀, hStays, -⟩ := exists_of_getElem?_marked he
    exact ⟨e₀, he₀, hStays.trans (stays_nextChild _ tick e)⟩

/-- Changing a child in its place. -/
theorem stays_modifyChild (w : Window Element) (id : ChildId) {f : Element → Element}
    (hStays : ∀ e : Element, e.Stays (f e)) : w.Stays (w.modifyChild id f) where
  state := rfl
  children := by
    intro i e' he'
    have hModify : (w.children.modify id.slot f)[i]? = some e' := he'
    rw [List.getElem?_modify] at hModify
    obtain ⟨e, he, rfl⟩ := Option.map_eq_some_iff.mp hModify
    refine ⟨e, he, ?_⟩
    split
    · exact hStays e
    · exact .refl e

-- ---------------------------------------------------------------------------
-- Texts that stay
-- ---------------------------------------------------------------------------

/-- The window `w'` is in the same place as `w`, and its children are too and show the same texts. -/
structure Persists (w w' : Window Element) : Prop extends Stays w w' where
  texts : w'.children.map Element.text = w.children.map Element.text

theorem Persists.refl (w : Window Element) : w.Persists w := ⟨.refl w, rfl⟩

theorem Persists.trans {u v w : Window Element} (huv : u.Persists v) (hvw : v.Persists w) :
    u.Persists w :=
  ⟨huv.toStays.trans hvw.toStays, hvw.texts.trans huv.texts⟩

/-- A child that persists. -/
theorem Persists.exists_child {w w' : Window Element} (h : w.Persists w') {e' : Element}
    (he' : e' ∈ w'.children) : ∃ e ∈ w.children, e.Stays e' ∧ e'.text = e.text := by
  obtain ⟨i, hi⟩ := List.getElem?_of_mem he'
  obtain ⟨e, he, hStays⟩ := h.children i e' hi
  have hText := congrArg (·[i]?) h.texts
  simp only [List.getElem?_map, hi, he, Option.map_some, Option.some.injEq] at hText
  exact ⟨e, List.mem_of_getElem? he, hStays, hText⟩

theorem map_text_marked (w : Window Element) :
    w.marked.map Element.text = w.children.map Element.text := by
  unfold marked
  split
  · rw [List.map_map]
    exact List.map_congr_left fun e _ => Element.text_mapState _ e
  · rfl

theorem persists_next (origin : Point) (tick : Tick) (w : Window Element) :
    w.Persists (StepModel.next origin tick w) where
  toStays := w.stays_next origin tick
  texts := by
    have hNext : (StepModel.next origin tick w).children.map Element.text =
        w.marked.map fun e => (nextChild (w.state.globalPosition origin) tick e).text :=
      List.map_map
    rw [hNext, ← map_text_marked]
    exact List.map_congr_left fun e _ => text_nextChild _ tick e

/-- Changing a child in its place, but not its text. -/
theorem persists_modifyChild (w : Window Element) (id : ChildId) {f : Element → Element}
    (hStays : ∀ e : Element, e.Stays (f e)) (hText : ∀ e : Element, (f e).text = e.text) :
    w.Persists (w.modifyChild id f) where
  toStays := w.stays_modifyChild id hStays
  texts := by
    refine List.ext_getElem? fun i => ?_
    have hModify : (w.modifyChild id f).children[i]? =
        (w.children[i]?).map fun e => if id.slot = i then f e else e := by
      show (w.children.modify id.slot f)[i]? = _
      rw [List.getElem?_modify]
      rfl
    have hSame (e : Element) : (if id.slot = i then f e else e).text = e.text := by
      split
      · exact hText e
      · rfl
    simp only [List.getElem?_map, hModify, Option.map_map, Function.comp_def, hSame]

end Window

end TouchPanel
