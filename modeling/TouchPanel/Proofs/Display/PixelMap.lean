import TouchPanel.Proofs.Display.Layer

/-!
# Framebuffers as maps of pixels

Seen from outside, a framebuffer is a map from pixels to colours, and painting overwrites entries of
it. What stands between the two is a memory of bytes: rows that may be too narrow for the columns
asked for, pixels of three or four bytes, the rest of a row that belongs to no pixel, and rectangles
that leave the picture or the plane.

* `PaintCall.Covers`     — the pixels that a call colours, in exact arithmetic.
* `lays_performAll`      — a sequence of calls is the stack of their layers.
* `stack_layers_eq`      — of a stack, what is seen at a pixel is the last call that covers it.
* `performAll_pixel_map` — so the bytes of a pixel are those of the last colour it was given.
-/

namespace TouchPanel

/-- A call that paints on a framebuffer. -/
inductive PaintCall where
  | setPixel (x y : Word) (color : Color)
  | fillRect (rect : Rect) (color : Color)
  | clear (color : Color)
  deriving DecidableEq, Repr

namespace PaintCall

/-- Makes the call. -/
def perform : PaintCall → Paint Framebuffer Unit
  | setPixel x y c => Framebuffer.setPixel x y c
  | fillRect rect c => Framebuffer.fillRect rect c
  | clear c => Framebuffer.clear c

/-- Makes calls, the first first. -/
def performAll (calls : List PaintCall) : Paint Framebuffer Unit :=
  Paint.forEach calls perform

/-- The colour that the call paints in. -/
def color : PaintCall → Color
  | setPixel _ _ c => c
  | fillRect _ c => c
  | clear c => c

/-- The call colours the pixel in column `x` and row `y`, if the picture has one. -/
def Covers (x y : Nat) : PaintCall → Prop
  | setPixel a b _ => x = a.toNat ∧ y = b.toNat
  | fillRect rect _ =>
      (rect.x.toNat ≤ x ∧ x < rect.x.toNat + rect.width.toNat) ∧
        rect.y.toNat ≤ y ∧ y < rect.y.toNat + rect.height.toNat
  | clear _ => True

instance (x y : Nat) : DecidablePred (Covers x y)
  | setPixel a b _ => inferInstanceAs (Decidable (x = a.toNat ∧ y = b.toNat))
  | fillRect _ _ => inferInstanceAs (Decidable ((_ ∧ _) ∧ _ ∧ _))
  | clear _ => .isTrue trivial

/-- The last of the calls that colour a pixel. -/
def lastCovering (calls : List PaintCall) (x y : Nat) : Option PaintCall :=
  calls.reverse.find? fun call => call.Covers x y

theorem lastCovering_cons (call : PaintCall) (rest : List PaintCall) (x y : Nat) :
    lastCovering (call :: rest) x y =
      (lastCovering rest x y).or (if call.Covers x y then some call else none) := by
  rw [lastCovering, List.reverse_cons, List.find?_append, List.find?_singleton]
  simp [lastCovering]

-- ---------------------------------------------------------------------------
-- Layers of calls
-- ---------------------------------------------------------------------------

/-- What a call paints on a framebuffer of a layout. -/
def layer (layout : DisplayLayout) : PaintCall → Layer
  | setPixel x y c => .fill (· == ⟨x, y⟩) c
  | fillRect rect c => .fill rect.contains c
  | clear c => .fill (Rect.contains ⟨0, 0, layout.width, layout.height⟩) c

theorem lays_perform (layout : DisplayLayout) (call : PaintCall) :
    Framebuffer.Lays layout call.perform () (call.layer layout) := by
  cases call with
  | setPixel x y c => exact Framebuffer.lays_setPixel layout ⟨x, y⟩ c
  | fillRect rect c => exact Framebuffer.lays_fillRect layout rect c
  | clear c =>
    refine Framebuffer.Lays.bind_empty (Framebuffer.lays_read fun fb hLayout => ?_)
      (Framebuffer.lays_fillRect layout ⟨0, 0, layout.width, layout.height⟩ c)
    rw [← hLayout]
    rfl

/-- A sequence of calls lays their layers, one over the other. -/
theorem lays_performAll (layout : DisplayLayout) (calls : List PaintCall) :
    Framebuffer.Lays layout (performAll calls) () (Layer.stack (calls.map (layer layout))) :=
  Framebuffer.lays_forEach fun call _ => lays_perform layout call

/-- Within the picture, a call colours the pixels that it covers. No edge of a rectangle that is
held at the limit of the plane lies there. -/
theorem layer_eq {layout : DisplayLayout} {p : Point} (hx : p.x < layout.width)
    (hy : p.y < layout.height) (call : PaintCall) :
    call.layer layout p = if call.Covers p.x.toNat p.y.toNat then some call.color else none := by
  rw [UInt64.lt_iff_toNat_lt] at hx hy
  have hWidth := layout.width.toNat_lt
  have hHeight := layout.height.toNat_lt
  cases call with
  | setPixel x y c =>
    have hPixel : (p == ⟨x, y⟩) = true ↔ p.x.toNat = x.toNat ∧ p.y.toNat = y.toNat := by
      obtain ⟨a, b⟩ := p
      rw [beq_iff_eq, Point.mk.injEq, UInt64.toNat_inj, UInt64.toNat_inj]
    exact ite_congr (propext hPixel) (fun _ => rfl) fun _ => rfl
  | fillRect rect c =>
    have hRect : rect.contains p = true ↔
        (rect.x.toNat ≤ p.x.toNat ∧ p.x.toNat < rect.x.toNat + rect.width.toNat) ∧
          rect.y.toNat ≤ p.y.toNat ∧ p.y.toNat < rect.y.toNat + rect.height.toNat := by
      rw [Rect.contains_iff, Rect.toNat_right, Rect.toNat_bottom]
      omega
    exact ite_congr (propext hRect) (fun _ => rfl) fun _ => rfl
  | clear c =>
    have hPicture : Rect.contains ⟨0, 0, layout.width, layout.height⟩ p = true := by
      rw [Rect.contains_iff, Rect.toNat_right, Rect.toNat_bottom]
      simp only [UInt64.toNat_zero]
      omega
    exact ite_congr (eq_true hPicture) (fun _ => rfl) fun _ => rfl

/-- **What is seen at a pixel** is the colour of the last call that covers it. -/
theorem stack_layers_eq {layout : DisplayLayout} {p : Point} (hx : p.x < layout.width)
    (hy : p.y < layout.height) (calls : List PaintCall) :
    Layer.stack (calls.map (layer layout)) p =
      (lastCovering calls p.x.toNat p.y.toNat).map color := by
  induction calls with
  | nil => rfl
  | cons call rest ih =>
    rw [List.map_cons, Layer.stack, Layer.onto, ih, layer_eq hx hy, lastCovering_cons]
    cases lastCovering rest p.x.toNat p.y.toNat with
    | some later => rfl
    | none => split <;> rfl

end PaintCall

-- ---------------------------------------------------------------------------
-- Bytes
-- ---------------------------------------------------------------------------

namespace DisplayLayout

/-- The number of columns of the picture: those asked for, as far as they fit a row. -/
def shownColumns (layout : DisplayLayout) : Nat :=
  min layout.width.toNat (layout.stride.toNat / layout.format.bytesPerPixel.toNat)

/-- The index of a byte of the pixel in column `x` and row `y`. -/
def byteIndex (layout : DisplayLayout) (x y k : Nat) : Nat :=
  y * layout.stride.toNat + x * layout.format.bytesPerPixel.toNat + k

end DisplayLayout

namespace Framebuffer

variable {layout : DisplayLayout} {memory : Array UInt8}

/-- Display memory that was taken over is as it was, and all columns that are shown fit its rows. -/
theorem attach_eq (layout : DisplayLayout) (memory : Array UInt8) :
    (attach layout memory).1 =
      ⟨{ layout with width := min layout.width layout.columns }, memory⟩ := by
  have hMin : min layout.width layout.columns =
      if layout.columns < layout.width then layout.columns else layout.width := by
    rw [← UInt64.toNat_inj, Word.toNat_min]
    split
    · rename_i h
      rw [UInt64.lt_iff_toNat_lt] at h
      omega
    · rename_i h
      rw [UInt64.lt_iff_toNat_lt] at h
      omega
  rw [attach, hMin]
  split <;> rfl

theorem toNat_width_attach (layout : DisplayLayout) (memory : Array UInt8) :
    (attach layout memory).1.width.toNat = layout.shownColumns := by
  rw [attach_eq]
  show (min layout.width layout.columns).toNat = _
  rw [Word.toNat_min, DisplayLayout.columns, UInt64.toNat_div, DisplayLayout.shownColumns]

/-- The bytes of a pixel after a layer was painted are those of its colour, if it has one. -/
theorem getElem?_overlay_of_pixel {fb : Framebuffer} (hSound : fb.Sound) (layer : Layer)
    {p : Point} (hx : p.x < fb.width) (hy : p.y < fb.height) {k : Nat}
    (hk : k < fb.layout.format.bytesPerPixel.toNat) :
    (fb.overlay layer).memory[fb.place p.x p.y + k]? =
      match layer p with
      | none => fb.memory[fb.place p.x p.y + k]?
      | some c => (fb.layout.format.encode c)[k]? := by
  have hi : fb.place p.x p.y + k < fb.memory.size := by
    have hColumn := hSound.column_fits hx
    have hRow : (p.y.toNat + 1) * fb.layout.stride.toNat ≤ fb.memory.size := by
      rw [hSound.size_eq, Nat.mul_comm fb.layout.stride.toNat]
      exact Nat.mul_le_mul_right _ (UInt64.lt_iff_toNat_lt.mp hy)
    rw [Nat.succ_mul] at hColumn hRow
    rw [place]
    omega
  have hPixel : pixel? fb.layout (fb.place p.x p.y + k) = some p :=
    (pixel?_eq_some_iff hSound hi).mpr ⟨⟨hx, hy⟩, Nat.le_add_right _ k, Nat.add_lt_add_left hk _⟩
  have hChannel : channel fb.layout (fb.place p.x p.y + k) = k := by
    rw [channel_eq hSound hx (Nat.le_add_right _ k) (Nat.add_lt_add_left hk _),
      Nat.add_sub_cancel_left]
  rw [getElem?_overlay, Array.getElem?_eq_getElem hi, Option.map_some, paintedByte, hPixel,
    Option.bind_some, hChannel]
  cases layer p with
  | none => rfl
  | some c =>
    have hLt : k < (fb.layout.format.encode c).length := by
      rw [PixelFormat.length_encode]
      exact hk
    simp only [List.getD_eq_getElem?_getD, List.getElem?_eq_getElem hLt, Option.getD_some]

/-- The bytes of a row after its last pixel are never painted. -/
theorem getElem?_overlay_of_rest (fb : Framebuffer) (layer : Layer) (y : Nat) {k : Nat}
    (hRest : fb.layout.width.toNat * fb.layout.format.bytesPerPixel.toNat ≤ k)
    (hk : k < fb.layout.stride.toNat) :
    (fb.overlay layer).memory[y * fb.layout.stride.toNat + k]? =
      fb.memory[y * fb.layout.stride.toNat + k]? := by
  have hBytes : 0 < fb.layout.format.bytesPerPixel.toNat := by
    cases fb.layout.format <;> decide
  have hNone : pixel? fb.layout (y * fb.layout.stride.toNat + k) = none := by
    have hColumn : fb.layout.width.toNat ≤ k / fb.layout.format.bytesPerPixel.toNat :=
      (Nat.le_div_iff_mul_le hBytes).mpr hRest
    have hMod : (y * fb.layout.stride.toNat + k) % fb.layout.stride.toNat = k := by
      rw [Nat.add_comm, Nat.add_mul_mod_self_right, Nat.mod_eq_of_lt hk]
    simp only [pixel?, hMod]
    exact if_neg (Nat.not_lt.mpr hColumn)
  exact getElem?_overlay_of_no_pixel hNone layer

/-- Calls on a sound framebuffer end, and give its pixels the colours of the last calls that cover
them. -/
theorem Sound.exists_performAll {fb : Framebuffer} (hSound : fb.Sound) (calls : List PaintCall) :
    ∃ after events, (PaintCall.performAll calls).run fb = .done () after events ∧
      after.memory.size = fb.memory.size ∧
      (∀ p : Point, p.x < fb.width → p.y < fb.height →
        ∀ k < fb.layout.format.bytesPerPixel.toNat,
          after.memory[fb.place p.x p.y + k]? =
            match PaintCall.lastCovering calls p.x.toNat p.y.toNat with
            | none => fb.memory[fb.place p.x p.y + k]?
            | some call => (fb.layout.format.encode call.color)[k]?) ∧
      ∀ y, ∀ k < fb.layout.stride.toNat,
        fb.layout.width.toNat * fb.layout.format.bytesPerPixel.toNat ≤ k →
          after.memory[y * fb.layout.stride.toNat + k]? =
            fb.memory[y * fb.layout.stride.toNat + k]? := by
  obtain ⟨events, hRun⟩ := PaintCall.lays_performAll fb.layout calls fb hSound rfl
  refine ⟨_, events, hRun, Array.size_mapIdx, fun p hx hy k hk => ?_, fun y k hk hRest => ?_⟩
  · rw [getElem?_overlay_of_pixel hSound _ hx hy hk, PaintCall.stack_layers_eq hx hy]
    cases PaintCall.lastCovering calls p.x.toNat p.y.toNat <;> rfl
  · exact getElem?_overlay_of_rest fb _ y hRest hk

end Framebuffer

end TouchPanel
