import TouchPanel.Proofs.Dialog.Places
import TouchPanel.Proofs.Dialog.Run
import TouchPanel.Proofs.Display.Window

/-!
# Painting within an area

A window paints within its area if its children lie in the area and their texts have room in them,
since the border is painted inside of the area as well. A step moves nothing and changes no text, so
this needs to be asked of a window once, before its first step. An accept dialog satisfies it
wherever its area is, and however little room the border and the padding leave for its children.

* `Screen.GainsWithin` — nothing was painted outside of an area.
* `Window.Encloses` — the children lie in the area of the window, side by side.
* `ModalDialog.succeeds_step_of_encloses` — a step of such a dialog paints within its area.
* `AcceptCall.exists_performAll_new` — so do all ticks and runs of an accept dialog.
-/

namespace TouchPanel

-- ---------------------------------------------------------------------------
-- Layers
-- ---------------------------------------------------------------------------

namespace Framebuffer

/-- The byte with an index belongs to the pixel of a point of the picture. -/
def BelongsTo (fb : Framebuffer) (i : Nat) (p : Point) : Prop :=
  (p.x < fb.width ∧ p.y < fb.height) ∧ fb.place p.x p.y ≤ i ∧
    i < fb.place p.x p.y + fb.layout.format.bytesPerPixel.toNat

/-- A byte belongs to one pixel at most. -/
theorem BelongsTo.unique {fb : Framebuffer} (hSound : fb.Sound) {i : Nat} {p q : Point}
    (hp : fb.BelongsTo i p) (hq : fb.BelongsTo i q) : p = q := by
  have hPixel := pixel?_of_place hSound hp.1.1 hp.2.1 hp.2.2
  rw [pixel?_of_place hSound hq.1.1 hq.2.1 hq.2.2] at hPixel
  exact (Option.some.inj hPixel).symm

/-- The byte after a layer was painted is told by the colours of the pixel that it belongs to. -/
theorem getElem?_overlay_congr {fb : Framebuffer} (hSound : fb.Sound) {layer layer' : Layer} {i : Nat}
    (h : ∀ p, fb.BelongsTo i p → layer p = layer' p) :
    (fb.overlay layer).memory[i]? = (fb.overlay layer').memory[i]? := by
  rw [getElem?_overlay, getElem?_overlay]
  by_cases hi : i < fb.memory.size
  · congr 1
    funext old
    rw [paintedByte, paintedByte]
    cases hPixel : pixel? fb.layout i with
    | none => rfl
    | some p =>
      rw [Option.bind_some, Option.bind_some, h p ((pixel?_eq_some_iff hSound hi).mp hPixel)]
  · rw [Array.getElem?_eq_none (Nat.not_lt.mp hi)]
    rfl

/-- A byte of a pixel is told by the colour of this pixel. -/
theorem getElem?_overlay_congr_at {fb : Framebuffer} (hSound : fb.Sound) {layer layer' : Layer}
    {i : Nat} {p : Point} (hByte : fb.BelongsTo i p) (h : layer p = layer' p) :
    (fb.overlay layer).memory[i]? = (fb.overlay layer').memory[i]? := by
  refine getElem?_overlay_congr hSound fun q hPixel => ?_
  rw [hPixel.unique hSound hByte, h]

/-- A layer that keeps to an area changes no byte but those of the pixels in the area. -/
theorem getElem?_overlay_of_within {fb : Framebuffer} (hSound : fb.Sound) {layer : Layer}
    {area : Rect} (hWithin : layer.Within area) {i : Nat}
    (hAway : ∀ p, fb.BelongsTo i p → area.contains p = false) :
    (fb.overlay layer).memory[i]? = fb.memory[i]? := by
  refine getElem?_overlay_of_unpainted hSound fun p c hColoured hx hy k hk hPixel => ?_
  have hOutside := hAway p ⟨⟨hx, hy⟩, by omega, by omega⟩
  rw [hWithin.contains hColoured] at hOutside
  cases hOutside

/-- All strips of a border lie inside of the rectangle. -/
theorem within_border {rect : Rect} (hPlane : rect.InPlane) (thickness : Word) (c : Color) :
    (border rect thickness c).Within rect := by
  obtain ⟨hWidth, hHeight⟩ := borderThickness_le rect thickness
  have hRightLt := hPlane.right_lt
  have hBottomLt := hPlane.bottom_lt
  have hRight := rect.toNat_right
  have hBottom := rect.toNat_bottom
  simp only [border]
  generalize borderThickness rect thickness = t at hWidth hHeight
  have hLow : (rect.bottom - t).toNat = rect.bottom.toNat - t.toNat :=
    Word.toNat_sub_of_ge (by omega)
  have hFar : (rect.right - t).toNat = rect.right.toNat - t.toNat :=
    Word.toNat_sub_of_ge (by omega)
  split
  · exact Layer.within_empty rect
  · refine Layer.within_stack fun layer hLayer => ?_
    simp only [List.mem_cons, List.not_mem_nil, or_false] at hLayer
    rcases hLayer with rfl | rfl | rfl | rfl
    all_goals
      refine Layer.within_fill fun p hContains => ?_
      rw [Rect.contains_iff, Rect.toNat_right, Rect.toNat_bottom] at hContains ⊢
      simp only [hLow, hFar] at hContains
      omega

end Framebuffer

-- ---------------------------------------------------------------------------
-- Screens
-- ---------------------------------------------------------------------------

namespace Screen

/-- The screen `t` is the screen `s` with nothing painted on it outside of an area. -/
def GainsWithin (s : Screen) (area : Rect) (t : Screen) : Prop :=
  ∃ layer, s.Gains t layer ∧ layer.Within area

theorem GainsWithin.refl (s : Screen) (area : Rect) : s.GainsWithin area s :=
  ⟨.empty, .refl s, Layer.within_empty area⟩

theorem GainsWithin.trans {s t u : Screen} {area : Rect} (hst : s.GainsWithin area t)
    (htu : t.GainsWithin area u) : s.GainsWithin area u := by
  obtain ⟨first, hFirst, hWithinFirst⟩ := hst
  obtain ⟨second, hSecond, hWithinSecond⟩ := htu
  exact ⟨second.onto first, hFirst.trans hSecond, hWithinSecond.onto hWithinFirst⟩

theorem GainsWithin.ready {s t : Screen} {area : Rect} (h : s.GainsWithin area t)
    (hReady : s.Ready) : t.Ready := by
  obtain ⟨layer, hGains, -⟩ := h
  exact hGains.ready hReady

theorem GainsWithin.textSize_eq {s t : Screen} {area : Rect} (h : s.GainsWithin area t) :
    Canvas.textSize t = Canvas.textSize s := by
  obtain ⟨layer, hGains, -⟩ := h
  exact textSize_of_font hGains.font

end Screen

-- ---------------------------------------------------------------------------
-- Windows
-- ---------------------------------------------------------------------------

namespace Window

/-- The area of a window on the screen, given the place of its owner. -/
def area {α : Type} (w : Window α) (origin : Point) : Rect :=
  .ofCorner (w.state.globalPosition origin) w.state.size

/-- The window ends inside the plane. Its children lie in it, do not get in each other's way, and
have room for their texts. -/
structure Encloses (measure : TextMeasure) (origin : Point) (w : Window Element) : Prop where
  inPlane : (w.area origin).InPlane
  spread : Spread measure (w.state.globalPosition origin) w.children
  inside : ∀ e ∈ w.children, ∀ p,
    (e.state.globalBounds (w.state.globalPosition origin)).contains p = true →
      (w.area origin).contains p = true

section Encloses

variable {measure : TextMeasure} {origin : Point} {w w' : Window Element}

theorem Stays.area_eq (h : w.Stays w') (origin : Point) : w'.area origin = w.area origin := by
  rw [area, h.globalPosition, h.state]
  rfl

/-- A window that stays where it is with its children and their texts encloses them still. -/
theorem Encloses.of_persists (h : w.Encloses measure origin) (hPersists : w.Persists w') :
    w'.Encloses measure origin where
  inPlane := by
    rw [hPersists.area_eq]
    exact h.inPlane
  spread := by
    rw [hPersists.globalPosition]
    refine h.spread.of_stays hPersists.children fun e' he' hVisible => ?_
    obtain ⟨e, he, hStays, hText⟩ := hPersists.exists_child he'
    rw [hStays.visible] at hVisible
    have hFits := (h.spread.placed e he hVisible).fits
    rw [← hStays.globalBounds] at hFits
    rw [hText]
    exact hFits
  inside := by
    intro e' he' p hContains
    obtain ⟨e, he, hStays, -⟩ := hPersists.exists_child he'
    rw [hPersists.globalPosition, hStays.globalBounds] at hContains
    rw [hPersists.area_eq]
    exact h.inside e he p hContains

end Encloses

section Step

variable {s : Screen} {origin : Point} {tick : Tick} {w : Window Element}

/-- The ground and the border keep to the area of the window. -/
theorem within_ground (hPlane : (w.area origin).InPlane) :
    (s.look (w.ground (w.state.globalPosition origin))).Within (w.area origin) := by
  refine Layer.within_stack fun layer hLayer => ?_
  obtain ⟨p, hp, rfl⟩ := List.mem_map.mp hLayer
  rcases List.mem_cons.mp hp with rfl | hFrame
  · exact Layer.within_fill fun _ hContains => hContains
  · split at hFrame
    · obtain rfl := List.mem_singleton.mp hFrame
      exact Framebuffer.within_border hPlane _ _
    · cases hFrame

/-- All that a step draws keeps to the area of the window. -/
theorem Encloses.within_drawing (h : w.Encloses (Canvas.textSize s) origin) :
    (s.look (StepModel.drawing (Canvas.textSize s) origin tick w)).Within (w.area origin) := by
  rw [look_drawing]
  refine Layer.Within.onto (fun p hOutside => ?_) ?_
  · rw [Screen.look_flatMap_eq_none_iff]
    intro e he
    rw [Option.eq_none_iff_forall_ne_some]
    intro c hLook
    -- the child was in this place before the window made it dirty
    obtain ⟨-, hContains⟩ := (spread_marked h.spread).contains_of_look he hLook
    obtain ⟨i, hi⟩ := List.getElem?_of_mem he
    obtain ⟨e₀, he₀, hStays, -⟩ := exists_of_getElem?_marked hi
    rw [hStays.globalBounds] at hContains
    rw [h.inside e₀ (List.mem_of_getElem? he₀) p hContains] at hOutside
    cases hOutside
  · split
    · exact within_ground h.inPlane
    · exact Layer.within_empty _

end Step

end Window

-- ---------------------------------------------------------------------------
-- Dialogs
-- ---------------------------------------------------------------------------

/-- **A step of a dialog** that encloses its children ends, and paints within the area of the
dialog. -/
theorem ModalDialog.succeeds_step_of_encloses {O : Type} [OutcomeLabel O] {s : Screen}
    (hReady : s.Ready) {origin : Point} {d : ModalDialog O}
    (h : d.window.Encloses (Canvas.textSize s) origin) (tick : Tick) :
    (d.step origin tick).Succeeds (s.GainsWithin (d.window.area origin)) := by
  intro t hGains
  cases hOutcome : d.outcome.isSome with
  | true => exact ⟨d, t, (ends_step_of_resolved hOutcome).mpr ⟨rfl, rfl⟩, hGains⟩
  | false =>
    rw [← hGains.textSize_eq] at h
    obtain ⟨u, hStep, hAdds⟩ := Window.exists_step (hGains.ready hReady) h.spread tick
    exact ⟨_, u, (ends_step_of_unresolved hOutcome).mpr ⟨_, hStep, rfl⟩,
      hGains.trans ⟨_, hAdds, h.within_drawing⟩⟩

-- ---------------------------------------------------------------------------
-- Accept dialogs
-- ---------------------------------------------------------------------------

/-- Elements with room for their texts are spread if no point belongs to two of their areas. -/
theorem Spread.of_pairwise {measure : TextMeasure} {place : Point} {elements : List Element}
    (hPlaced : ∀ e ∈ elements, e.Placed measure (e.state.globalBounds place))
    (hApart : ∀ p, (elements.map fun e => e.state.globalBounds place).Pairwise fun r r' =>
      ¬(r.contains p = true ∧ r'.contains p = true)) : Spread measure place elements := by
  refine spread_iff_pairwise.mpr ⟨fun e he _ => hPlaced e he, ?_⟩
  rw [List.pairwise_iff_getElem]
  intro i j hi hj hLt _ _ p
  have hPairs := List.pairwise_map.mp (hApart p)
  rw [List.pairwise_iff_getElem] at hPairs
  exact hPairs i j hi hj hLt

namespace AcceptDialog

section Encloses

variable {places : Places} {area : Rect} {infoText yesText noText : String} {style : Style}
  {measure : TextMeasure}

theorem area_dialog :
    (places.dialog area infoText yesText noText style).window.area .zero = area := by
  rw [Window.area, globalPosition_dialog]
  rfl

/-- **A new dialog** encloses its children, if the texts have room in their places. -/
theorem encloses_dialog (hLaid : places.Laid area.size style) (hArea : area.InPlane)
    (hFits : ∀ child ∈ places.children infoText yesText noText style,
      measure.Fits child.text child.state.size) :
    (places.dialog area infoText yesText noText style).window.Encloses measure .zero where
  inPlane := by
    rw [area_dialog]
    exact hArea
  spread := by
    rw [globalPosition_dialog]
    refine Spread.of_pairwise (fun child hChild => ?_) hLaid.apart
    have hText := hFits child hChild
    obtain ⟨place, hPlace, hState⟩ := exists_place_of_mem hChild
    obtain ⟨hRight, hBottom⟩ := (hLaid.fitsInto place hPlace).inPlane_translate hArea
    rw [hState] at hText ⊢
    exact ⟨hRight, hBottom, hText⟩
  inside := by
    intro child hChild p hContains
    obtain ⟨place, hPlace, hState⟩ := exists_place_of_mem hChild
    rw [globalPosition_dialog, hState] at hContains
    rw [area_dialog]
    exact (hLaid.fitsInto place hPlace).contains_area hArea hContains

end Encloses

end AcceptDialog

/-- What is done with an accept dialog on the screen. -/
inductive AcceptCall where
  | step (tick : Tick)
  | run (ticks : List Tick)

namespace AcceptCall

/-- Steps the dialog once or runs it. -/
def perform {σ : Type} [Canvas σ] (d : AcceptDialog) : AcceptCall → Paint σ AcceptDialog
  | step tick => d.step .zero tick
  | run ticks => Prod.fst <$> d.run ticks

/-- Does one thing after the other. -/
def performAll {σ : Type} [Canvas σ] : List AcceptCall → AcceptDialog → Paint σ AcceptDialog
  | [], d => return d
  | call :: rest, d => do performAll rest (← call.perform d)

section Calls

variable {s t : Screen} {w₀ : Window Element} {d : AcceptDialog}

/-- A tick or a run ends, paints within the area of the dialog, and leaves everything in its
place. -/
theorem exists_perform (hReady : s.Ready)
    (hEncloses : w₀.Encloses (Canvas.textSize s) .zero)
    (hPersists : w₀.Persists d.dialog.window)
    (hGains : s.GainsWithin (w₀.area .zero) t) (call : AcceptCall) :
    ∃ d' u, (call.perform d).Ends t d' u ∧ s.GainsWithin (w₀.area .zero) u ∧
      w₀.Persists d'.dialog.window := by
  have hStep (e : ModalDialog Answer) (hSame : w₀.Persists e.window) (tick : Tick) :
      (e.step .zero tick).Succeeds (s.GainsWithin (w₀.area .zero)) := by
    rw [← hSame.area_eq]
    exact ModalDialog.succeeds_step_of_encloses hReady (hEncloses.of_persists hSame) tick
  cases call with
  | step tick =>
    obtain ⟨e, u, hEnds, hGains⟩ := hStep d.dialog hPersists tick t hGains
    exact ⟨{ d with dialog := e }, u, Paint.ends_map.mpr ⟨e, hEnds, rfl⟩, hGains,
      hPersists.trans (ModalDialog.persists_of_ends_step hEnds)⟩
  | run ticks =>
    obtain ⟨e, r, u, hEnds, hGains, hPersists⟩ :=
      ModalDialog.succeeds_exec hStep ticks hPersists hGains
    have hRun : (d.run ticks).Ends t ({ d with dialog := e }, r) u :=
      Paint.ends_bind.mpr ⟨(e, r), u, hEnds, Paint.ends_pure.mpr ⟨rfl, rfl⟩⟩
    exact ⟨{ d with dialog := e }, u, Paint.ends_map.mpr ⟨_, hRun, rfl⟩, hGains, hPersists⟩

theorem exists_performAll_of_encloses (hReady : s.Ready)
    (hEncloses : w₀.Encloses (Canvas.textSize s) .zero)
    (hPersists : w₀.Persists d.dialog.window)
    (hGains : s.GainsWithin (w₀.area .zero) t) (calls : List AcceptCall) :
    ∃ d' u, (performAll calls d).Ends t d' u ∧ s.GainsWithin (w₀.area .zero) u := by
  induction calls generalizing d t with
  | nil => exact ⟨d, t, Paint.ends_pure.mpr ⟨rfl, rfl⟩, hGains⟩
  | cons call rest ih =>
    obtain ⟨d', u, hPerform, hGains, hPersists⟩ :=
      exists_perform hReady hEncloses hPersists hGains call
    obtain ⟨d'', v, hPerformAll, hGains⟩ := ih hPersists hGains
    exact ⟨d'', v, Paint.ends_bind.mpr ⟨d', u, hPerform, hPerformAll⟩, hGains⟩

/-- **An accept dialog paints within its area.** The memory of the screen has the size that its
layout asks for (`Framebuffer.sound_attach`), and its font, if it has one, was accepted. A dialog can
be made in every area of the plane and with every margin that is a word. If the texts have room in
their places then, every sequence of ticks and runs comes to an end, and it leaves alone every byte
of display memory that does not belong to the pixel of a point in the area. -/
theorem exists_performAll_new {s : Screen} (hSound : s.framebuffer.Sound)
    (hFont : ∀ font ∈ s.font, ∃ data, Font.load data = .ok font) {area : Rect}
    (hRight : area.x.toNat + area.width.toNat < 1 <<< 64)
    (hBottom : area.y.toNat + area.height.toNat < 1 <<< 64) {style : Style}
    (hMargin : style.margin < 1 <<< 64) (infoText yesText noText : String) :
    ∃ d, AcceptDialog.new area infoText yesText noText style = .ok d ∧
      ((∀ child ∈ d.dialog.window.children,
          TextMeasure.Fits (Canvas.textSize s) child.text child.state.size) →
        ∀ calls, ∃ d' t, (performAll calls d).Ends s d' t ∧
          ∀ i, (∀ p, s.framebuffer.BelongsTo i p → area.contains p = false) →
            t.framebuffer.memory[i]? = s.framebuffer.memory[i]?) := by
  have hReady : s.Ready := by
    refine ⟨hSound, fun font hMem => ?_⟩
    obtain ⟨data, hLoad⟩ := hFont font hMem
    exact Font.regular_of_load hLoad
  obtain ⟨places, hLaid, hNew⟩ := AcceptDialog.exists_new area infoText yesText noText hMargin
  refine ⟨_, hNew, fun hFits calls => ?_⟩
  have hEncloses := AcceptDialog.encloses_dialog hLaid ⟨hRight, hBottom⟩ hFits
  obtain ⟨d', t, hPerformAll, layer, hGains, hWithin⟩ := exists_performAll_of_encloses
    (d := places.accept area infoText yesText noText style) hReady hEncloses (.refl _)
    (.refl s _) calls
  refine ⟨d', t, hPerformAll, fun i hAway => ?_⟩
  rw [AcceptDialog.area_dialog] at hWithin
  rw [hGains.framebuffer]
  exact Framebuffer.getElem?_overlay_of_within hSound hWithin hAway

end Calls

/-- A picture of 32 times 8 pixels, and texts in `dashes`. -/
def panel : Screen :=
  { (Screen.attach ⟨32, 8, 96, .rgb⟩ (Array.replicate 768 0) .black).1 with font := some dashes }

/-- A style with a border and a padding of one. -/
def thin : Style := { Style.standard with frameThickness := 1, padding := 1 }

/-- The last row of the area is below the picture. -/
theorem exists_performAll_new_panel :
    ∃ d, AcceptDialog.new ⟨3, 1, 25, 8⟩ "!!" "#" "!" thin = .ok d ∧
      (∀ child ∈ d.dialog.window.children,
        TextMeasure.Fits (Canvas.textSize panel) child.text child.state.size) ∧
      ∃ d' t, (performAll [.step ⟨10, some ⟨6, 6⟩⟩, .run [⟨10, some ⟨6, 6⟩⟩, ⟨10, none⟩],
          .step ⟨10, none⟩] d).Ends panel d' t ∧
        ∀ i, (∀ p, panel.framebuffer.BelongsTo i p → Rect.contains ⟨3, 1, 25, 8⟩ p = false) →
          t.framebuffer.memory[i]? = panel.framebuffer.memory[i]? := by
  have hSound : (Framebuffer.attach ⟨32, 8, 96, .rgb⟩ (Array.replicate 768 0)).1.Sound := by
    refine Framebuffer.sound_attach Array.size_replicate ?_
    rw [Array.size_replicate]
    decide
  have hFont : ∀ font ∈ panel.font, ∃ data, Font.load data = .ok font := by
    intro font hFont
    cases hFont
    exact ⟨dashesData, load_dashesData⟩
  have hMargin : thin.margin < 1 <<< 64 := by decide
  obtain ⟨d, hNew, hCalls⟩ := exists_performAll_new (s := panel) hSound hFont
    (show (Rect.mk 3 1 25 8).x.toNat + (Rect.mk 3 1 25 8).width.toNat < 1 <<< 64 by decide)
    (show (Rect.mk 3 1 25 8).y.toNat + (Rect.mk 3 1 25 8).height.toNat < 1 <<< 64 by decide)
    hMargin "!!" "#" "!"
  have hPlaces : AcceptDialog.new ⟨3, 1, 25, 8⟩ "!!" "#" "!" thin =
      .ok (AcceptDialog.Places.accept ⟨⟨2, 2, 21, 2⟩, ⟨2, 5, 10, 1⟩, ⟨13, 5, 10, 1⟩⟩
        ⟨3, 1, 25, 8⟩ "!!" "#" "!" thin) := AcceptDialog.new_of_within rfl _ _ _
  have hFits : ∀ child ∈ d.dialog.window.children,
      TextMeasure.Fits (Canvas.textSize panel) child.text child.state.size := by
    rw [hNew] at hPlaces
    cases hPlaces
    simp only [AcceptDialog.Places.accept, AcceptDialog.Places.dialog,
      AcceptDialog.Places.children, List.forall_mem_cons,
      List.not_mem_nil, false_implies, implies_true, and_true]
    exact ⟨⟨⟨16, 1⟩, rfl, by decide, by decide⟩, ⟨⟨8, 1⟩, rfl, by decide, by decide⟩,
      ⟨⟨8, 1⟩, rfl, by decide, by decide⟩⟩
  exact ⟨d, hNew, hFits, hCalls hFits _⟩

end AcceptCall

end TouchPanel
