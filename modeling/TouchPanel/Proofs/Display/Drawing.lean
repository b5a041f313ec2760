import TouchPanel.Proofs.Display.Text
import TouchPanel.Proofs.Step.Drawing

/-!
# Drawings on a screen

On a screen everything that can be drawn is a layer, so a drawing is a stack of layers. It comes
to an end whenever its texts end inside the plane, and it leaves the font of the screen alone.

* `Screen.exists_drawAll` — drawing on a screen.
* A screen is a steady canvas.
-/

namespace TouchPanel

namespace Primitive

/-- The layer of one thing drawn, on a picture of `width` columns. -/
def layer (width : Word) (font : Option Font) : Primitive → Layer
  | .rect area c => .fill area.contains c
  | .frame area thickness c => Framebuffer.border area thickness c
  | .text corner content c =>
      font.elim .empty fun font => Screen.charsLayer font width c content.toList corner

/-- A text ends inside the plane. -/
def EndsInPlane (font : Option Font) : Primitive → Prop
  | .rect _ _ => True
  | .frame _ _ _ => True
  | .text corner content _ => ∀ f ∈ font,
      corner.x.toNat + content.length * f.width.toNat < 1 <<< 64 ∧
        corner.y.toNat + f.height.toNat < 1 <<< 64

/-- The layer of a drawing. -/
def layerOf (width : Word) (font : Option Font) (drawing : List Primitive) : Layer :=
  Layer.stack (drawing.map (layer width font))

theorem layerOf_append (width : Word) (font : Option Font) (first second : List Primitive) :
    layerOf width font (first ++ second) =
      (layerOf width font second).onto (layerOf width font first) := by
  induction first with
  | nil => exact (Layer.onto_empty _).symm
  | cons p rest ih =>
    simp only [layerOf, List.cons_append, List.map_cons, Layer.stack] at ih ⊢
    rw [ih, Layer.onto_assoc]

end Primitive

namespace Screen

variable {s t u : Screen}

-- ---------------------------------------------------------------------------
-- What drawing keeps
-- ---------------------------------------------------------------------------

theorem ends_onFramebuffer {α : Type} {m : Paint Framebuffer α} {a : α} :
    (onFramebuffer m).Ends s a t ↔
      ∃ fb, m.Ends s.framebuffer a fb ∧ t = { s with framebuffer := fb } := by
  obtain ⟨framebuffer, font, background, dirty⟩ := s
  cases hRun : m.run framebuffer with
  | done b fb events =>
    have hScreen : (onFramebuffer m).run ⟨framebuffer, font, background, dirty⟩ =
        .done b ⟨fb, font, background, dirty⟩ events := by
      simp only [Paint.run, onFramebuffer] at hRun ⊢
      rw [hRun]
    simp only [Paint.ends_iff_of_run hScreen, Paint.ends_iff_of_run hRun]
    constructor
    · intro hSame
      obtain ⟨rfl, rfl⟩ := hSame
      exact ⟨fb, ⟨rfl, rfl⟩, rfl⟩
    · intro hParts
      obtain ⟨_, ⟨rfl, rfl⟩, rfl⟩ := hParts
      exact ⟨rfl, rfl⟩
  | faulted fault fb events =>
    have hScreen : (onFramebuffer m).run ⟨framebuffer, font, background, dirty⟩ =
        .faulted fault ⟨fb, font, background, dirty⟩ events := by
      simp only [Paint.run, onFramebuffer] at hRun ⊢
      rw [hRun]
    exact iff_of_false (Paint.not_ends_of_run hScreen)
      fun ⟨_, hEnds, _⟩ => Paint.not_ends_of_run hRun hEnds

/-- Painting and then noting it. -/
theorem ends_painted {m : Paint Framebuffer Unit} :
    (do onFramebuffer m; touch : Paint Screen Unit).Ends s () t ↔
      ∃ fb, m.Ends s.framebuffer () fb ∧ t = { s with framebuffer := fb, dirty := true } := by
  simp only [Paint.ends_bind, ends_onFramebuffer, touch, Paint.ends_update]
  constructor
  · intro hEnds
    obtain ⟨_, _, ⟨fb, hPaint, rfl⟩, rfl⟩ := hEnds
    exact ⟨fb, hPaint, rfl⟩
  · intro hParts
    obtain ⟨fb, hPaint, rfl⟩ := hParts
    exact ⟨(), _, ⟨fb, hPaint, rfl⟩, rfl⟩

theorem ends_drawText_of_font {font : Font} (hFont : s.font = some font) {corner : Point}
    {text : String} {c : Color} {n : Nat} :
    (drawText corner text c).Ends s n t ↔
      ∃ fb, (drawChars font c text.toList corner).Ends s.framebuffer n fb ∧
        t = { s with framebuffer := fb, dirty := true } := by
  simp only [drawText, Paint.ends_bind, Paint.ends_read]
  constructor
  · intro hEnds
    obtain ⟨_, _, ⟨rfl, rfl⟩, h⟩ := hEnds
    rw [hFont] at h
    simp only [Paint.ends_bind, ends_onFramebuffer, touch, Paint.ends_update, Paint.ends_pure] at h
    obtain ⟨_, _, ⟨fb, hPaint, rfl⟩, _, _, rfl, rfl, rfl⟩ := h
    exact ⟨fb, hPaint, by rw [hFont]⟩
  · intro hParts
    obtain ⟨fb, hPaint, rfl⟩ := hParts
    refine ⟨s.font, s, ⟨rfl, rfl⟩, ?_⟩
    rw [hFont]
    simp only [Paint.ends_bind, ends_onFramebuffer, touch, Paint.ends_update, Paint.ends_pure]
    exact ⟨n, _, ⟨fb, hPaint, rfl⟩, (), _, rfl, rfl, by rw [hFont]⟩

theorem ends_drawText_of_no_font (hFont : s.font = none) {corner : Point} {text : String}
    {c : Color} {n : Nat} : (drawText corner text c).Ends s n t ↔ n = 0 ∧ t = s := by
  simp only [drawText, Paint.ends_bind, Paint.ends_read]
  constructor
  · intro hEnds
    obtain ⟨_, _, ⟨rfl, rfl⟩, h⟩ := hEnds
    rw [hFont] at h
    exact Paint.ends_pure.mp h
  · intro hParts
    obtain ⟨rfl, rfl⟩ := hParts
    refine ⟨_, _, ⟨rfl, rfl⟩, ?_⟩
    rw [hFont]
    exact Paint.ends_pure.mpr ⟨rfl, rfl⟩

/-- Drawing does not change the font. -/
theorem font_of_ends_draw {p : Primitive} (h : p.draw.Ends s () t) : t.font = s.font := by
  cases p with
  | rect area c =>
    obtain ⟨fb, -, rfl⟩ := ends_painted.mp h
    rfl
  | frame area thickness c =>
    obtain ⟨fb, -, rfl⟩ := ends_painted.mp h
    rfl
  | text corner text c =>
    obtain ⟨n, hText⟩ := Paint.ends_discard.mp h
    cases hFont : s.font with
    | none => rw [((ends_drawText_of_no_font hFont).mp hText).2, hFont]
    | some font =>
      obtain ⟨fb, -, rfl⟩ := (ends_drawText_of_font hFont).mp hText
      exact hFont

theorem textSize_of_font (h : t.font = s.font) : Canvas.textSize t = Canvas.textSize s := by
  funext text
  show textSize t text = textSize s text
  rw [textSize, textSize, h]

instance : SteadyCanvas Screen where
  textSize_draw h := textSize_of_font (font_of_ends_draw h)

-- ---------------------------------------------------------------------------
-- What drawing adds
-- ---------------------------------------------------------------------------

/-- The screen `t` is the screen `s` with a layer painted on it. -/
structure Gains (s t : Screen) (layer : Layer) : Prop where
  font : t.font = s.font
  framebuffer : t.framebuffer = s.framebuffer.overlay layer

theorem Gains.refl (s : Screen) : s.Gains s .empty :=
  ⟨rfl, (Framebuffer.overlay_empty _).symm⟩

theorem Gains.trans {first second : Layer} (hst : s.Gains t first) (htu : t.Gains u second) :
    s.Gains u (second.onto first) where
  font := htu.font.trans hst.font
  framebuffer := by rw [htu.framebuffer, hst.framebuffer, Framebuffer.overlay_overlay]

theorem Gains.width {layer : Layer} (h : s.Gains t layer) :
    t.framebuffer.width = s.framebuffer.width := by
  rw [h.framebuffer]
  rfl

/-- Things can be drawn on the screen: its memory is as large as its layout asks for, and looking
for a character in its font, if it has one, does not fault. -/
structure Ready (s : Screen) : Prop where
  sound : s.framebuffer.Sound
  regular : ∀ font ∈ s.font, font.Regular

theorem Gains.ready {layer : Layer} (h : s.Gains t layer) (hReady : s.Ready) : t.Ready where
  sound := by
    rw [h.framebuffer]
    exact hReady.sound.overlay layer
  regular := by
    rw [h.font]
    exact hReady.regular

/-- Painting and noting it adds the layer that is painted. -/
theorem Ready.exists_painted (hReady : s.Ready) {m : Paint Framebuffer Unit} {layer : Layer}
    (hLays : Framebuffer.Lays s.framebuffer.layout m () layer) :
    ∃ t, (do onFramebuffer m; touch : Paint Screen Unit).Ends s () t ∧ s.Gains t layer :=
  ⟨_, ends_painted.mpr ⟨_, hLays s.framebuffer hReady.sound rfl, rfl⟩, rfl, rfl⟩

/-- One thing drawn on a screen adds its layer. -/
theorem Ready.exists_draw (hReady : s.Ready) {p : Primitive} (hPlane : p.EndsInPlane s.font) :
    ∃ t, p.draw.Ends s () t ∧ s.Gains t (p.layer s.framebuffer.width s.font) := by
  cases p with
  | rect area c => exact hReady.exists_painted (Framebuffer.lays_fillRect _ area c)
  | frame area thickness c =>
    exact hReady.exists_painted (Framebuffer.lays_drawFrame _ area thickness c)
  | text corner text c =>
    cases hFont : s.font with
    | none =>
      refine ⟨s, Paint.ends_discard.mpr ⟨0, (ends_drawText_of_no_font hFont).mpr ⟨rfl, rfl⟩⟩, ?_⟩
      exact .refl s
    | some font =>
      obtain ⟨hx, hy⟩ := hPlane font hFont
      rw [← String.length_toList] at hx
      have hLays : Framebuffer.Lays s.framebuffer.layout (drawChars font c text.toList corner)
          (charsWritten font s.framebuffer.width text.toList corner)
          (charsLayer font s.framebuffer.width c text.toList corner) :=
        lays_drawChars c (inRange_of_regular (hReady.regular font hFont) hx hy)
      refine ⟨_, Paint.ends_discard.mpr ⟨_, (ends_drawText_of_font hFont).mpr
        ⟨_, hLays s.framebuffer hReady.sound rfl, rfl⟩⟩, ?_, ?_⟩
      · rfl
      · rfl

/-- What a drawing looks like on the screen. -/
def look (s : Screen) (drawing : List Primitive) : Layer :=
  Primitive.layerOf s.framebuffer.width s.font drawing

/-- A drawing looks the same after something was painted. -/
theorem Gains.look_eq {layer : Layer} (h : s.Gains t layer) : t.look = s.look := by
  funext drawing
  rw [look, look, h.width, h.font]

theorem look_append (s : Screen) (first second : List Primitive) :
    s.look (first ++ second) = (s.look second).onto (s.look first) :=
  Primitive.layerOf_append _ _ _ _

/-- Drawings leave out a point exactly when each of them does. -/
theorem look_flatMap_eq_none_iff {α : Type} {f : α → List Primitive} {items : List α} {p : Point} :
    s.look (items.flatMap f) p = none ↔ ∀ a ∈ items, s.look (f a) p = none := by
  induction items with
  | nil => exact iff_of_true rfl fun _ h => absurd h List.not_mem_nil
  | cons a rest ih =>
    rw [List.flatMap_cons, look_append, Layer.onto, Option.or_eq_none_iff, ih,
      List.forall_mem_cons, and_comm]

/-- The colour of a point is that of one of the drawings. -/
theorem exists_of_look_flatMap {α : Type} {f : α → List Primitive} {items : List α} {p : Point}
    {c : Color} (h : s.look (items.flatMap f) p = some c) :
    ∃ (i : Nat) (a : α), items[i]? = some a ∧ s.look (f a) p = some c := by
  induction items with
  | nil => cases h
  | cons a rest ih =>
    rw [List.flatMap_cons, look_append, Layer.onto] at h
    rcases Option.or_eq_some_iff.mp h with hRest | ⟨-, hFirst⟩
    · obtain ⟨i, b, hb, hLook⟩ := ih hRest
      exact ⟨i + 1, b, hb, hLook⟩
    · exact ⟨0, a, rfl, hFirst⟩

/-- **Drawing on a screen** adds what the drawing looks like. -/
theorem Ready.exists_drawAll (hReady : s.Ready) {drawing : List Primitive}
    (hPlane : ∀ p ∈ drawing, p.EndsInPlane s.font) :
    ∃ t, (Primitive.drawAll drawing).Ends s () t ∧ s.Gains t (s.look drawing) := by
  induction drawing generalizing s with
  | nil => exact ⟨s, Primitive.ends_drawAll_nil.mpr rfl, .refl s⟩
  | cons p rest ih =>
    obtain ⟨hFirst, hRest⟩ := List.forall_mem_cons.mp hPlane
    obtain ⟨t, hDraw, hGains⟩ := hReady.exists_draw hFirst
    rw [← hGains.font] at hRest
    obtain ⟨u, hDrawAll, hGainsAll⟩ := ih (hGains.ready hReady) hRest
    refine ⟨u, Primitive.ends_drawAll_cons.mpr ⟨t, hDraw, hDrawAll⟩, ?_⟩
    rw [hGains.look_eq] at hGainsAll
    exact hGains.trans hGainsAll

end Screen

end TouchPanel
