import TouchPanel.Proofs.Display.Incremental

/-!
# The order of children

The children of a window are stepped one after the other, on one screen. Two windows whose children
are in a different order draw the same things in a different order, and each child is stepped on what
others have left on the screen. None of this can be seen as long as no point belongs to two children:
not in display memory, and not from the children.

* `Spread.look_flatMap_perm`     — what the children draw looks the same in every order.
* `Window.Reordered`             — two windows that differ in the order of their children.
* `Window.Reordered.exists_step` — a step does the same with both.
* `exists_performAll_reordered`  — and so do any number of them.
-/

namespace TouchPanel

/-- In every order, children that do not get in each other's way draw what looks the same. -/
theorem Spread.look_flatMap_perm {s : Screen} {place : Point} {tick : Tick}
    {elements elements' : List Element} (h : Spread (Canvas.textSize s) place elements)
    (hPerm : elements'.Perm elements) :
    s.look (elements'.flatMap (Window.childDrawing (Canvas.textSize s) place tick)) =
      s.look (elements.flatMap (Window.childDrawing (Canvas.textSize s) place tick)) := by
  funext p
  cases hLook : s.look (elements'.flatMap
      (Window.childDrawing (Canvas.textSize s) place tick)) p with
  | none =>
    rw [Screen.look_flatMap_eq_none_iff] at hLook
    exact (Screen.look_flatMap_eq_none_iff.mpr fun e he => hLook e (hPerm.mem_iff.mpr he)).symm
  | some c =>
    -- one child draws the point, and it is the only one that may
    obtain ⟨_, e, he, hChild⟩ := Screen.exists_of_look_flatMap hLook
    have hMem : e ∈ elements := hPerm.mem_iff.mp (List.mem_of_getElem? he)
    obtain ⟨hVisible, hContains⟩ := h.contains_of_look hMem hChild
    obtain ⟨i, hi⟩ := List.getElem?_of_mem hMem
    rw [h.look_children hi hVisible hContains, hChild]

-- ---------------------------------------------------------------------------
-- Screens
-- ---------------------------------------------------------------------------

namespace Screen

/-- Two screens have the same bytes in the same layout, and write in the same font. -/
structure Alike (s s' : Screen) : Prop where
  layout : s'.framebuffer.layout = s.framebuffer.layout
  memory : s'.framebuffer.memory = s.framebuffer.memory
  font : s'.font = s.font

section Alike

variable {s s' t t' : Screen}

theorem Alike.framebuffer (h : s.Alike s') : s'.framebuffer = s.framebuffer :=
  Framebuffer.ext_memory h.layout fun i => by rw [h.memory]

theorem Alike.ready (h : s.Alike s') (hReady : s.Ready) : s'.Ready where
  sound := by
    rw [h.framebuffer]
    exact hReady.sound
  regular := by
    rw [h.font]
    exact hReady.regular

theorem Alike.look_eq (h : s.Alike s') : s'.look = s.look := by
  funext drawing
  rw [look, look, h.framebuffer, h.font]

/-- The same layer is painted on both. -/
theorem Alike.gains {layer : Layer} (h : s.Alike s') (hGains : s.Gains t layer)
    (hGains' : s'.Gains t' layer) : t.Alike t' := by
  have hFramebuffer : t'.framebuffer = t.framebuffer := by
    rw [hGains'.framebuffer, hGains.framebuffer, h.framebuffer]
  exact ⟨by rw [hFramebuffer], by rw [hFramebuffer], by rw [hGains'.font, hGains.font, h.font]⟩

end Alike

end Screen

-- ---------------------------------------------------------------------------
-- Windows
-- ---------------------------------------------------------------------------

namespace Window

/-- Two windows are the same but for the order of their children. -/
structure Reordered (w w' : Window Element) : Prop where
  state : w'.state = w.state
  style : w'.style = w.style
  children : w'.children.Perm w.children

namespace Reordered

variable {w w' : Window Element} {origin : Point}

theorem marked (h : w.Reordered w') : w'.marked.Perm w.marked := by
  rw [Window.marked, Window.marked, h.state]
  split
  · exact h.children.map _
  · exact h.children

/-- Children that are the same in both windows are the same when their turn comes. -/
theorem getElem?_marked (h : w.Reordered w') {i j : Nat}
    (hSame : w'.children[j]? = w.children[i]?) : w'.marked[j]? = w.marked[i]? := by
  rw [Window.marked, Window.marked, h.state]
  split
  · rw [List.getElem?_map, List.getElem?_map, hSame]
  · exact hSame

theorem next (h : w.Reordered w') (origin : Point) (tick : Tick) :
    Reordered (StepModel.next origin tick w) (StepModel.next origin tick w') where
  state := congrArg WidgetState.clearDirty h.state
  style := h.style
  children := by
    show (w'.marked.map (nextChild (w'.state.globalPosition origin) tick)).Perm
      (w.marked.map (nextChild (w.state.globalPosition origin) tick))
    rw [h.state]
    exact h.marked.map _

/-- Children that are the same in both windows are the same after a step. -/
theorem getElem?_next (h : w.Reordered w') {i j : Nat}
    (hSame : w'.children[j]? = w.children[i]?) (origin : Point) (tick : Tick) :
    (StepModel.next origin tick w').children[j]? =
      (StepModel.next origin tick w).children[i]? := by
  show (w'.marked.map (nextChild (w'.state.globalPosition origin) tick))[j]? =
    (w.marked.map (nextChild (w.state.globalPosition origin) tick))[i]?
  rw [List.getElem?_map, List.getElem?_map, h.getElem?_marked hSame, h.state]

/-- Both windows draw what looks the same. -/
theorem look_drawing (h : w.Reordered w') {s : Screen} (tick : Tick)
    (hSpread : Spread (Canvas.textSize s) (w.state.globalPosition origin) w.children) :
    s.look (StepModel.drawing (Canvas.textSize s) origin tick w') =
      s.look (StepModel.drawing (Canvas.textSize s) origin tick w) := by
  have hGround (place : Point) : w'.ground place = w.ground place := by
    rw [ground, ground, h.state, h.style]
  rw [Window.look_drawing, Window.look_drawing, hGround, h.state,
    (spread_marked hSpread).look_flatMap_perm h.marked]

/-- **A step does the same with both windows**, and leaves them the same but for the order. -/
theorem exists_step (h : w.Reordered w') {s s' : Screen} (hReady : s.Ready) (hAlike : s.Alike s')
    (hSpread : Spread (Canvas.textSize s) (w.state.globalPosition origin) w.children)
    (tick : Tick) :
    ∃ t t', (w.step origin tick).Ends s (StepModel.next origin tick w) t ∧
      (w'.step origin tick).Ends s' (StepModel.next origin tick w') t' ∧ t.Alike t' ∧
        t.Ready ∧ t.font = s.font := by
  have hMeasure : Canvas.textSize s' = Canvas.textSize s := Screen.textSize_of_font hAlike.font
  have hSpread' : Spread (Canvas.textSize s') (w'.state.globalPosition origin) w'.children := by
    rw [hMeasure, h.state]
    exact hSpread.perm h.children
  obtain ⟨t, hEnds, hGains⟩ := Window.exists_step hReady hSpread tick
  obtain ⟨t', hEnds', hGains'⟩ := Window.exists_step (hAlike.ready hReady) hSpread' tick
  rw [hMeasure, hAlike.look_eq, h.look_drawing tick hSpread] at hGains'
  exact ⟨t, t', hEnds, hEnds', hAlike.gains hGains hGains', hGains.ready hReady, hGains.font⟩

/-- **So does every number of steps.** -/
theorem exists_performAll (h : w.Reordered w') {s s' : Screen} (hReady : s.Ready)
    (hAlike : s.Alike s')
    (hSpread : Spread (Canvas.textSize s) (w.state.globalPosition origin) w.children)
    (ticks : List Tick) :
    ∃ u u' t t', (Operation.performAll origin (ticks.map .step) w).Ends s u t ∧
      (Operation.performAll origin (ticks.map .step) w').Ends s' u' t' ∧ t.Alike t' ∧
        ∀ i j : Nat, w'.children[j]? = w.children[i]? → u'.children[j]? = u.children[i]? := by
  induction ticks generalizing w w' s s' with
  | nil =>
    exact ⟨w, w', s, s', Paint.ends_pure.mpr ⟨rfl, rfl⟩, Paint.ends_pure.mpr ⟨rfl, rfl⟩, hAlike,
      fun _ _ hSame => hSame⟩
  | cons tick rest ih =>
    obtain ⟨s₁, s₁', hStep, hStep', hAlike₁, hReady₁, hFont₁⟩ :=
      h.exists_step hReady hAlike hSpread tick
    have hSpread₁ : Spread (Canvas.textSize s₁) ((StepModel.next origin tick w).state.globalPosition
        origin) (StepModel.next origin tick w).children := by
      rw [Screen.textSize_of_font hFont₁]
      exact spread_next hSpread
    obtain ⟨u, u', t, t', hRest, hRest', hAlike', hSame'⟩ :=
      ih (h.next origin tick) hReady₁ hAlike₁ hSpread₁
    exact ⟨u, u', t, t', Paint.ends_bind.mpr ⟨_, s₁, hStep, hRest⟩,
      Paint.ends_bind.mpr ⟨_, s₁', hStep', hRest'⟩, hAlike',
      fun i j hSame => hSame' i j (h.getElem?_next hSame origin tick)⟩

end Reordered

end Window

/-- **The order of the children does not matter.** Let two screens have the same memory, layout and
font, where the memory has the size that the layout asks for and the bitmaps of the font, if there is
one, were read from a file. Let two windows of labels and buttons be the same but for the order of their
children, where the visible children end inside the plane, have room for their texts and do not
overlap. Then both windows can be given any ticks. Afterwards the memories of both screens are the
same, and a child that was the same in both windows still is, whatever its slots are. -/
theorem exists_performAll_reordered {s s' : Screen} {origin : Point} {w w' : Window Element}
    (hSound : s.framebuffer.Sound) (hFont : ∀ font ∈ s.font, font.FromFile)
    (hAlike : s.Alike s') (hReordered : w.Reordered w')
    (hArranged : w.Arranged (Canvas.textSize s) origin) (ticks : List Tick) :
    ∃ u u' t t', (Operation.performAll origin (ticks.map .step) w).Ends s u t ∧
      (Operation.performAll origin (ticks.map .step) w').Ends s' u' t' ∧
      t'.framebuffer.memory = t.framebuffer.memory ∧
      ∀ i j : Nat, w'.children[j]? = w.children[i]? → u'.children[j]? = u.children[i]? := by
  have hReady : s.Ready := ⟨hSound, fun font hMem => (hFont font hMem).regular⟩
  obtain ⟨u, u', t, t', hEnds, hEnds', hAlike', hSame⟩ :=
    hReordered.exists_performAll hReady hAlike hArranged.spread ticks
  exact ⟨u, u', t, t', hEnds, hEnds', hAlike'.memory, hSame⟩

/-- The button before the label. -/
def buttonAndLabel : Window Element :=
  { labelAndButton with children := labelAndButton.children.reverse }

/-- The button is pressed and clicked. The other screen has another background and was presented. -/
theorem exists_performAll_reordered_buttonAndLabel :
    ∃ u u' t t',
      (Operation.performAll .zero ([⟨10, some ⟨20, 2⟩⟩, ⟨10, none⟩].map .step) labelAndButton).Ends
        strip u t ∧
      (Operation.performAll .zero ([⟨10, some ⟨20, 2⟩⟩, ⟨10, none⟩].map .step) buttonAndLabel).Ends
        { strip with background := .white, dirty := false } u' t' ∧
      t'.framebuffer.memory = t.framebuffer.memory ∧ u'.children[0]? = u.children[1]? := by
  have hSound : (Framebuffer.attach ⟨24, 4, 73, .rgb⟩ (Array.replicate 292 0)).1.Sound := by
    refine Framebuffer.sound_attach Array.size_replicate ?_
    rw [Array.size_replicate]
    decide
  have hFont : ∀ font ∈ strip.font, font.FromFile := by
    intro font hMem
    cases hMem
    exact ⟨dashesData, dashes, load_dashesData, rfl, rfl⟩
  have hAlike : strip.Alike { strip with background := .white, dirty := false } := ⟨rfl, rfl, rfl⟩
  have hReordered : labelAndButton.Reordered buttonAndLabel := ⟨rfl, rfl, List.reverse_perm _⟩
  obtain ⟨u, u', t, t', hEnds, hEnds', hMemory, hSame⟩ :=
    exists_performAll_reordered hSound hFont hAlike hReordered arranged_labelAndButton
      [⟨10, some ⟨20, 2⟩⟩, ⟨10, none⟩]
  exact ⟨u, u', t, t', hEnds, hEnds', hMemory, hSame 1 0 rfl⟩

end TouchPanel
