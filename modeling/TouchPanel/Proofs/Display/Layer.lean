import TouchPanel.Display.Framebuffer
import TouchPanel.Proofs.Ends
import TouchPanel.Proofs.Geometry

/-!
# Layers

Everything that is painted on a framebuffer is a layer of coloured points on what was there
before. A `Layer` says of every point of the plane whether it is coloured and how; layers are laid
over each other, and the part of a layer that lies in the picture is brought into display memory
by `Framebuffer.overlay`, byte by byte.

* `Layer.Colours` — what a layer in one colour looks like.
* `overlay_overlay` — what matters of two layers, one after the other, is the one laid over the
  other.
* `getElem?_overlay_of_unpainted` — a byte of no coloured pixel is as it was.
* `Lays` — a computation ends on every sound framebuffer of a layout, and paints a layer.
* `overlay_span` — pixels written one after the other to a row lay the points of a span.
* `lays_setPixel`, `lays_fillRect`, `lays_drawFrame` — painting is laying a layer.
-/

namespace TouchPanel

-- ---------------------------------------------------------------------------
-- Layers
-- ---------------------------------------------------------------------------

/-- The points that are coloured, and their colours. -/
abbrev Layer := Point → Option Color

namespace Layer

/-- Nothing is coloured. -/
def empty : Layer := fun _ => none

/-- What is seen of two layers. -/
def onto (top bottom : Layer) : Layer := fun p => (top p).or (bottom p)

/-- The points with a property, in one colour. -/
def fill (area : Point → Bool) (c : Color) : Layer := fun p => if area p then some c else none

/-- Layers laid one after the other, the first of them at the bottom. -/
def stack : List Layer → Layer
  | [] => empty
  | bottom :: rest => (stack rest).onto bottom

/-- All that is coloured in a layer is seen in another one. -/
def Shows (seen layer : Layer) : Prop := ∀ p c, layer p = some c → seen p = some c

/-- Nothing outside an area is coloured. -/
def Within (layer : Layer) (area : Rect) : Prop :=
  ∀ p, area.contains p = false → layer p = none

@[simp] theorem empty_onto (layer : Layer) : empty.onto layer = layer := rfl

@[simp] theorem onto_empty (layer : Layer) : layer.onto empty = layer := by
  funext p
  exact Option.or_none

theorem onto_assoc (top middle bottom : Layer) :
    (top.onto middle).onto bottom = top.onto (middle.onto bottom) := by
  funext p
  exact Option.or_assoc

theorem onto_of_eq_none {top : Layer} {p : Point} (h : top p = none) (bottom : Layer) :
    top.onto bottom p = bottom p := by
  rw [onto, h, Option.none_or]

theorem onto_of_eq_some {top : Layer} {p : Point} {c : Color} (h : top p = some c)
    (bottom : Layer) : top.onto bottom p = some c := by
  rw [onto, h, Option.some_or]

/-- A layer that is seen already changes nothing. -/
theorem Shows.onto_eq {seen layer : Layer} (h : seen.Shows layer) : layer.onto seen = seen := by
  funext p
  cases hLayer : layer p with
  | none => exact onto_of_eq_none hLayer seen
  | some c => rw [onto_of_eq_some hLayer, h p c hLayer]

theorem within_empty (area : Rect) : empty.Within area := fun _ _ => rfl

theorem Within.onto {top bottom : Layer} {area : Rect} (hTop : top.Within area)
    (hBottom : bottom.Within area) : (top.onto bottom).Within area := by
  intro p hOutside
  rw [onto_of_eq_none (hTop p hOutside), hBottom p hOutside]

theorem within_stack {layers : List Layer} {area : Rect}
    (h : ∀ layer ∈ layers, layer.Within area) : (stack layers).Within area := by
  induction layers with
  | nil => exact within_empty area
  | cons bottom rest ih =>
    obtain ⟨hBottom, hRest⟩ := List.forall_mem_cons.mp h
    exact (ih hRest).onto hBottom

theorem within_fill {points : Point → Bool} {c : Color} {area : Rect}
    (h : ∀ p, points p = true → area.contains p = true) : (fill points c).Within area := by
  intro p hOutside
  refine if_neg fun hPoint => ?_
  rw [h p hPoint] at hOutside
  cases hOutside

/-- A point coloured by a layer that keeps to an area lies in the area. -/
theorem Within.contains {layer : Layer} {area : Rect} (h : layer.Within area) {p : Point}
    {c : Color} (hColoured : layer p = some c) : area.contains p = true := by
  cases hContains : area.contains p with
  | true => rfl
  | false =>
    rw [h p hContains] at hColoured
    cases hColoured

-- ---------------------------------------------------------------------------
-- Layers in one colour
-- ---------------------------------------------------------------------------

/-- The layer colours the points with a property, in one colour, and no others. -/
def Colours (layer : Layer) (c : Color) (points : Point → Prop) : Prop :=
  ∀ p, (points p → layer p = some c) ∧ (¬points p → layer p = none)

section Colours

variable {c : Color} {points others : Point → Prop}

theorem Colours.unique {layer layer' : Layer} (h : layer.Colours c points)
    (h' : layer'.Colours c points) : layer = layer' := by
  funext p
  by_cases hp : points p
  · rw [(h p).1 hp, (h' p).1 hp]
  · rw [(h p).2 hp, (h' p).2 hp]

theorem Colours.congr {layer : Layer} (h : layer.Colours c points)
    (hSame : ∀ p, points p ↔ others p) : layer.Colours c others :=
  fun p => ⟨fun hp => (h p).1 ((hSame p).mpr hp), fun hp => (h p).2 (mt (hSame p).mp hp)⟩

theorem colours_empty (h : ∀ p, ¬points p) : empty.Colours c points :=
  fun p => ⟨fun hp => absurd hp (h p), fun _ => rfl⟩

theorem colours_fill (area : Point → Bool) (c : Color) :
    (fill area c).Colours c fun p => area p = true :=
  fun _ => ⟨fun hp => if_pos hp, fun hp => if_neg hp⟩

theorem Colours.onto {top bottom : Layer} (hTop : top.Colours c points)
    (hBottom : bottom.Colours c others) :
    (top.onto bottom).Colours c fun p => points p ∨ others p := by
  intro p
  constructor
  · intro hp
    by_cases hPoint : points p
    · exact onto_of_eq_some ((hTop p).1 hPoint) bottom
    · rw [onto_of_eq_none ((hTop p).2 hPoint)]
      exact (hBottom p).1 (hp.resolve_left hPoint)
  · intro hp
    rw [not_or] at hp
    rw [onto_of_eq_none ((hTop p).2 hp.1)]
    exact (hBottom p).2 hp.2

theorem colours_stack {α : Type} {items : List α} {layer : α → Layer} {points : α → Point → Prop}
    (h : ∀ a ∈ items, (layer a).Colours c (points a)) :
    (stack (items.map layer)).Colours c fun p => ∃ a ∈ items, points a p := by
  induction items with
  | nil => exact colours_empty fun p hp => by simp at hp
  | cons a rest ih =>
    obtain ⟨hFirst, hRest⟩ := List.forall_mem_cons.mp h
    refine ((ih hRest).onto hFirst).congr fun p => ?_
    simp only [List.mem_cons, exists_eq_or_imp]
    exact or_comm

end Colours

end Layer

-- ---------------------------------------------------------------------------
-- Layers in display memory
-- ---------------------------------------------------------------------------

namespace Framebuffer

/-- The point whose pixel the byte with an index belongs to, if it belongs to a pixel. -/
def pixel? (layout : DisplayLayout) (i : Nat) : Option Point :=
  let column := i % layout.stride.toNat / layout.format.bytesPerPixel.toNat
  if column < layout.width.toNat then
    some ⟨UInt64.ofNat column, UInt64.ofNat (i / layout.stride.toNat)⟩
  else none

/-- The place of a byte in its pixel. -/
def channel (layout : DisplayLayout) (i : Nat) : Nat :=
  i % layout.stride.toNat % layout.format.bytesPerPixel.toNat

/-- The byte with an index after a layer was painted. -/
def paintedByte (layout : DisplayLayout) (layer : Layer) (i : Nat) (old : UInt8) : UInt8 :=
  match (pixel? layout i).bind layer with
  | none => old
  | some c => (layout.format.encode c).getD (channel layout i) old

/-- Rows of `stride` bytes are made of pixels of `bytes` bytes: the bytes from the place of a pixel
on are in its row and in its column. -/
theorem div_mod_of_place {i stride bytes x y : Nat} (hFits : (x + 1) * bytes ≤ stride)
    (hLe : y * stride + x * bytes ≤ i) (hLt : i < y * stride + x * bytes + bytes) :
    i / stride = y ∧ i % stride / bytes = x ∧
      i % stride % bytes = i - (y * stride + x * bytes) := by
  obtain ⟨k, rfl⟩ := Nat.exists_eq_add_of_le hLe
  have hk : k < bytes := by omega
  rw [Nat.succ_mul] at hFits
  have hInRow : x * bytes + k < stride := by omega
  have hRow : y * stride + x * bytes + k = x * bytes + k + stride * y := by
    rw [Nat.mul_comm stride y]
    omega
  have hColumn : x * bytes + k = k + bytes * x := by
    rw [Nat.mul_comm bytes x]
    omega
  refine ⟨?_, ?_, ?_⟩
  · rw [hRow, Nat.add_mul_div_left _ _ (by omega), Nat.div_eq_of_lt hInRow, Nat.zero_add]
  · rw [hRow, Nat.add_mul_mod_self_left, Nat.mod_eq_of_lt hInRow, hColumn,
      Nat.add_mul_div_left _ _ (by omega), Nat.div_eq_of_lt hk, Nat.zero_add]
  · rw [hRow, Nat.add_mul_mod_self_left, Nat.mod_eq_of_lt hInRow, hColumn,
      Nat.add_mul_mod_self_left, Nat.mod_eq_of_lt hk]
    omega

/-- In a sound framebuffer a pixel of the picture fits its row. -/
theorem Sound.column_fits {fb : Framebuffer} (hSound : fb.Sound) {x : Word} (hx : x < fb.width) :
    (x.toNat + 1) * fb.layout.format.bytesPerPixel.toNat ≤ fb.layout.stride.toNat :=
  Nat.le_trans (Nat.mul_le_mul_right _ (UInt64.lt_iff_toNat_lt.mp hx)) hSound.width_le

/-- The rows of a picture have three bytes for each column at least, and are no longer than the
plane is wide. -/
theorem Sound.width_mul_lt {fb : Framebuffer} (h : fb.Sound) : fb.width.toNat * 3 < 1 <<< 64 := by
  have hBytes : 3 ≤ fb.layout.format.bytesPerPixel.toNat := by
    cases fb.layout.format <;> decide
  have hColumns := Nat.mul_le_mul_left fb.width.toNat hBytes
  have hStride := fb.layout.stride.toNat_lt
  have hWidth := h.width_le
  omega

/-- A picture that has columns has few rows, since all of them have bytes in the memory. -/
theorem Sound.height_mul_lt {fb : Framebuffer} (h : fb.Sound) (hColumn : 0 < fb.width.toNat) :
    fb.height.toNat * 3 < 1 <<< 64 := by
  have hBytes : 3 ≤ fb.layout.format.bytesPerPixel.toNat := by
    cases fb.layout.format <;> decide
  have hRow : 3 ≤ fb.layout.stride.toNat := by
    have hColumns := Nat.mul_le_mul hColumn hBytes
    have hWidth := h.width_le
    omega
  have hRows := Nat.mul_le_mul_right fb.layout.height.toNat hRow
  have hSize := h.size_lt
  rw [h.size_eq] at hSize
  have hHeight : fb.height.toNat = fb.layout.height.toNat := rfl
  omega

/-- The bytes from the place of a pixel on belong to it. -/
theorem pixel?_of_place {fb : Framebuffer} (hSound : fb.Sound) {i : Nat} {p : Point}
    (hx : p.x < fb.width) (hLe : fb.place p.x p.y ≤ i)
    (hLt : i < fb.place p.x p.y + fb.layout.format.bytesPerPixel.toNat) :
    pixel? fb.layout i = some p := by
  obtain ⟨hRow, hColumn, -⟩ := div_mod_of_place (hSound.column_fits hx) hLe hLt
  simp only [pixel?, hRow, hColumn, UInt64.ofNat_toNat]
  exact if_pos (UInt64.lt_iff_toNat_lt.mp hx)

/-- A byte belongs to a pixel of the picture exactly when it is one of the bytes from the place of
the pixel on. -/
theorem pixel?_eq_some_iff {fb : Framebuffer} (hSound : fb.Sound) {i : Nat}
    (hi : i < fb.memory.size) {p : Point} :
    pixel? fb.layout i = some p ↔
      (p.x < fb.width ∧ p.y < fb.height) ∧ fb.place p.x p.y ≤ i ∧
        i < fb.place p.x p.y + fb.layout.format.bytesPerPixel.toNat := by
  have hBytes : 0 < fb.layout.format.bytesPerPixel.toNat := by
    cases fb.layout.format <;> decide
  refine ⟨fun h => ?_, fun h => ?_⟩
  · -- the row and the column of the byte are words
    have hRow : i / fb.layout.stride.toNat < fb.layout.height.toNat :=
      Nat.div_lt_of_lt_mul (hSound.size_eq ▸ hi)
    have hHeight := fb.layout.height.toNat_lt
    have hWidth := fb.layout.width.toNat_lt
    have hi_eq := Nat.div_add_mod i fb.layout.stride.toNat
    have hr_eq := Nat.div_add_mod (i % fb.layout.stride.toNat)
      fb.layout.format.bytesPerPixel.toNat
    have hChannel := Nat.mod_lt (i % fb.layout.stride.toNat) hBytes
    simp only [pixel?] at h
    split at h
    · rename_i hColumn
      cases h
      have hx : (UInt64.ofNat (i % fb.layout.stride.toNat /
          fb.layout.format.bytesPerPixel.toNat)).toNat = _ :=
        UInt64.toNat_ofNat_of_lt' (Nat.lt_trans hColumn hWidth)
      have hy : (UInt64.ofNat (i / fb.layout.stride.toNat)).toNat = _ :=
        UInt64.toNat_ofNat_of_lt' (Nat.lt_trans hRow hHeight)
      rw [UInt64.lt_iff_toNat_lt, UInt64.lt_iff_toNat_lt, place, hx, hy]
      refine ⟨⟨hColumn, hRow⟩, ?_⟩
      rw [Nat.mul_comm _ fb.layout.stride.toNat,
        Nat.mul_comm _ fb.layout.format.bytesPerPixel.toNat]
      omega
    · cases h
  · obtain ⟨⟨hx, -⟩, hLe, hLt⟩ := h
    exact pixel?_of_place hSound hx hLe hLt

/-- The bytes of a pixel are its channels. -/
theorem channel_eq {fb : Framebuffer} (hSound : fb.Sound) {i : Nat} {x y : Word}
    (hx : x < fb.width) (hLe : fb.place x y ≤ i)
    (hLt : i < fb.place x y + fb.layout.format.bytesPerPixel.toNat) :
    channel fb.layout i = i - fb.place x y :=
  (div_mod_of_place (hSound.column_fits hx) hLe hLt).2.2

/-- The framebuffer with a layer painted on it. -/
def overlay (fb : Framebuffer) (layer : Layer) : Framebuffer :=
  { fb with memory := fb.memory.mapIdx (paintedByte fb.layout layer) }

theorem getElem?_overlay (fb : Framebuffer) (layer : Layer) (i : Nat) :
    (fb.overlay layer).memory[i]? = (fb.memory[i]?).map (paintedByte fb.layout layer i) := by
  rw [overlay, Array.getElem?_mapIdx]

/-- A byte that belongs to no pixel is not painted. -/
theorem getElem?_overlay_of_no_pixel {fb : Framebuffer} {i : Nat}
    (hNone : pixel? fb.layout i = none) (layer : Layer) :
    (fb.overlay layer).memory[i]? = fb.memory[i]? := by
  have hKept : paintedByte fb.layout layer i = id := by
    funext old
    rw [paintedByte, hNone]
    rfl
  rw [getElem?_overlay, hKept, Option.map_id, id]

/-- A byte is as it was, unless it belongs to a pixel that the layer colours. -/
theorem getElem?_overlay_of_unpainted {fb : Framebuffer} (hSound : fb.Sound) {layer : Layer} {i : Nat}
    (hAway : ∀ p c, layer p = some c → p.x < fb.width → p.y < fb.height →
      ∀ k < fb.layout.format.bytesPerPixel.toNat, i ≠ fb.place p.x p.y + k) :
    (fb.overlay layer).memory[i]? = fb.memory[i]? := by
  rw [getElem?_overlay]
  by_cases hi : i < fb.memory.size
  · have hNothing : (pixel? fb.layout i).bind layer = none := by
      refine Option.bind_eq_none_iff.mpr fun p hPixel => ?_
      refine Option.eq_none_iff_forall_ne_some.mpr fun c hColoured => ?_
      obtain ⟨⟨hx, hy⟩, hLe, hLt⟩ := (pixel?_eq_some_iff hSound hi).mp hPixel
      exact hAway p c hColoured hx hy (i - fb.place p.x p.y) (by omega) (by omega)
    have hKept : paintedByte fb.layout layer i = id := by
      funext old
      rw [paintedByte, hNothing]
      rfl
    rw [hKept, Option.map_id, id]
  · rw [Array.getElem?_eq_none (Nat.not_lt.mp hi)]
    rfl

@[simp] theorem layout_overlay (fb : Framebuffer) (layer : Layer) :
    (fb.overlay layer).layout = fb.layout := rfl

theorem Sound.overlay {fb : Framebuffer} (h : fb.Sound) (layer : Layer) :
    (fb.overlay layer).Sound where
  size_eq := by
    rw [Framebuffer.overlay, Array.size_mapIdx]
    exact h.size_eq
  size_lt := by
    rw [Framebuffer.overlay, Array.size_mapIdx]
    exact h.size_lt
  width_le := h.width_le

/-- Two framebuffers of one layout are the same if their bytes are. -/
theorem ext_memory {fb fb' : Framebuffer} (hLayout : fb.layout = fb'.layout)
    (hMemory : ∀ i : Nat, fb.memory[i]? = fb'.memory[i]?) : fb = fb' := by
  obtain ⟨layout, memory⟩ := fb
  obtain ⟨layout', memory'⟩ := fb'
  obtain rfl : layout = layout' := hLayout
  congr 1
  exact Array.ext_getElem? hMemory

@[simp] theorem overlay_empty (fb : Framebuffer) : fb.overlay .empty = fb := by
  refine ext_memory rfl fun i => ?_
  have hKept : paintedByte fb.layout .empty i = id := by
    funext old
    rw [paintedByte]
    cases pixel? fb.layout i <;> rfl
  rw [getElem?_overlay, hKept, Option.map_id, id]

/-- A byte of a pixel does not keep anything of what was there before. -/
theorem getD_encode (layout : DisplayLayout) (c : Color) (i : Nat) (old old' : UInt8) :
    (layout.format.encode c).getD (channel layout i) old =
      (layout.format.encode c).getD (channel layout i) old' := by
  have hBytes : 0 < layout.format.bytesPerPixel.toNat := by
    cases layout.format <;> decide
  have hLt : channel layout i < (layout.format.encode c).length := by
    rw [PixelFormat.length_encode]
    exact Nat.mod_lt _ hBytes
  simp only [List.getD_eq_getElem?_getD, List.getElem?_eq_getElem hLt, Option.getD_some]

/-- Of two layers that are painted one after the other, the second is seen over the first. -/
theorem overlay_overlay (fb : Framebuffer) (bottom top : Layer) :
    (fb.overlay bottom).overlay top = fb.overlay (top.onto bottom) := by
  refine ext_memory rfl fun i => ?_
  rw [getElem?_overlay, getElem?_overlay, getElem?_overlay, Option.map_map]
  congr 1
  funext old
  simp only [Function.comp, layout_overlay, paintedByte]
  cases hPixel : pixel? fb.layout i with
  | none => rfl
  | some p =>
    simp only [Option.bind_some]
    cases hTop : top p with
    | none => rw [Layer.onto_of_eq_none hTop]
    | some c =>
      rw [Layer.onto_of_eq_some hTop]
      exact getD_encode _ _ _ _ _

/-- What lies outside the picture does not matter. -/
theorem overlay_congr {fb : Framebuffer} {layer layer' : Layer} (hSound : fb.Sound)
    (h : ∀ p, p.x < fb.width → p.y < fb.height → layer p = layer' p) :
    fb.overlay layer = fb.overlay layer' := by
  refine ext_memory rfl fun i => ?_
  rw [getElem?_overlay, getElem?_overlay]
  by_cases hi : i < fb.memory.size
  · congr 1
    funext old
    rw [paintedByte, paintedByte]
    cases hPixel : pixel? fb.layout i with
    | none => rfl
    | some p =>
      obtain ⟨⟨hx, hy⟩, -⟩ := (pixel?_eq_some_iff hSound hi).mp hPixel
      rw [Option.bind_some, Option.bind_some, h p hx hy]
  · rw [Array.getElem?_eq_none (Nat.not_lt.mp hi)]
    rfl

theorem overlay_eq_self {fb : Framebuffer} {layer : Layer} (hSound : fb.Sound)
    (h : ∀ p, p.x < fb.width → p.y < fb.height → layer p = none) : fb.overlay layer = fb := by
  have hEmpty : fb.overlay layer = fb.overlay .empty := overlay_congr hSound h
  rw [hEmpty, overlay_empty]

-- ---------------------------------------------------------------------------
-- Computations that lay a layer
-- ---------------------------------------------------------------------------

/-- On every sound framebuffer of the layout, the computation ends with the value, and has painted
the layer. -/
def Lays {α : Type} (layout : DisplayLayout) (m : Paint Framebuffer α) (a : α)
    (layer : Layer) : Prop :=
  ∀ fb : Framebuffer, fb.Sound → fb.layout = layout → m.Ends fb a (fb.overlay layer)

section Lays

variable {α β : Type} {layout : DisplayLayout}

theorem lays_pure (a : α) : Lays layout (pure a) a .empty := by
  intro fb _ _
  rw [overlay_empty]
  exact Paint.ends_pure.mpr ⟨rfl, rfl⟩

theorem lays_lift {x : Except Fault α} {a : α} (h : x = .ok a) :
    Lays layout (Paint.lift x) a .empty := by
  intro fb _ _
  rw [overlay_empty]
  exact Paint.ends_lift.mpr ⟨h, rfl⟩

theorem Lays.bind {m : Paint Framebuffer α} {f : α → Paint Framebuffer β} {a : α} {b : β}
    {first second : Layer} (hFirst : Lays layout m a first)
    (hSecond : Lays layout (f a) b second) : Lays layout (m >>= f) b (second.onto first) := by
  intro fb hSound hLayout
  rw [← overlay_overlay]
  exact Paint.ends_bind.mpr ⟨a, fb.overlay first, hFirst fb hSound hLayout,
    hSecond _ (hSound.overlay first) hLayout⟩

/-- A value that does not depend on what is painted is laid before the rest. -/
theorem Lays.bind_empty {m : Paint Framebuffer α} {f : α → Paint Framebuffer β} {a : α} {b : β}
    {layer : Layer} (hFirst : Lays layout m a .empty) (hSecond : Lays layout (f a) b layer) :
    Lays layout (m >>= f) b layer := by
  have h := hFirst.bind hSecond
  rw [Layer.onto_empty] at h
  exact h

theorem Lays.bind_pure {m : Paint Framebuffer α} {a : α} {layer : Layer}
    (h : Lays layout m a layer) (f : α → β) :
    Lays layout (m >>= fun a => pure (f a)) (f a) layer := by
  have hBoth : Lays layout (m >>= fun a => pure (f a)) (f a) (Layer.empty.onto layer) :=
    h.bind (lays_pure (f a))
  exact hBoth

theorem lays_read {look : Framebuffer → α} {a : α}
    (h : ∀ fb : Framebuffer, fb.layout = layout → look fb = a) :
    Lays layout (Paint.read look) a .empty := by
  intro fb _ hLayout
  rw [overlay_empty]
  exact Paint.ends_read.mpr ⟨(h fb hLayout).symm, rfl⟩

theorem lays_forEach {f : α → Paint Framebuffer Unit} {layer : α → Layer} {items : List α}
    (h : ∀ a ∈ items, Lays layout (f a) () (layer a)) :
    Lays layout (Paint.forEach items f) () (Layer.stack (items.map layer)) := by
  induction items with
  | nil => exact lays_pure ()
  | cons a rest ih =>
    obtain ⟨hFirst, hRest⟩ := List.forall_mem_cons.mp h
    rw [Paint.forEach_cons]
    exact hFirst.bind (ih hRest)

end Lays

-- ---------------------------------------------------------------------------
-- Pixels, rectangles and borders
-- ---------------------------------------------------------------------------

/-- The bytes of a pixel, written to its place, are the point in the picture. -/
theorem overlay_pixel {fb : Framebuffer} (hSound : fb.Sound) {p : Point} (hx : p.x < fb.width)
    (hy : p.y < fb.height) (c : Color) :
    fb.overlay (.fill (· == p) c) =
      ⟨fb.layout, writeBytes fb.memory (fb.place p.x p.y) (fb.layout.format.encode c)⟩ := by
  refine ext_memory rfl fun i => ?_
  rw [getElem?_overlay, getElem?_writeBytes, PixelFormat.length_encode]
  by_cases hi : i < fb.memory.size
  · rw [Array.getElem?_eq_getElem hi, Option.map_some, paintedByte]
    by_cases hSpan : fb.place p.x p.y ≤ i ∧
        i < fb.place p.x p.y + fb.layout.format.bytesPerPixel.toNat
    · -- a byte of the pixel
      have hPixel := (pixel?_eq_some_iff hSound hi).mpr ⟨⟨hx, hy⟩, hSpan⟩
      have hChannel := channel_eq hSound hx hSpan.1 hSpan.2
      have hLt : i - fb.place p.x p.y < (fb.layout.format.encode c).length := by
        rw [PixelFormat.length_encode]
        omega
      rw [if_pos ⟨hSpan.1, hSpan.2, hi⟩, hPixel, Option.bind_some, hChannel]
      simp [Layer.fill, List.getElem?_eq_getElem hLt]
    · -- a byte of another pixel, or of none
      have hOther : (pixel? fb.layout i).bind (Layer.fill (· == p) c) = none := by
        cases hPixel : pixel? fb.layout i with
        | none => rfl
        | some q =>
          have hNe : q ≠ p := by
            rintro rfl
            exact hSpan ((pixel?_eq_some_iff hSound hi).mp hPixel).2
          simp [Layer.fill, hNe]
      rw [hOther, if_neg fun h => hSpan ⟨h.1, h.2.1⟩]
  · rw [if_neg fun h => hi h.2.2, Array.getElem?_eq_none (Nat.not_lt.mp hi)]
    rfl

/-- Painting a pixel is laying one point. -/
theorem lays_setPixel (layout : DisplayLayout) (p : Point) (c : Color) :
    Lays layout (setPixel p.x p.y c) () (.fill (· == p) c) := by
  intro fb hSound _
  by_cases hInside : p.x < fb.width ∧ p.y < fb.height
  · rw [overlay_pixel hSound hInside.1 hInside.2]
    exact Paint.Ends.of_run (hSound.run_setPixel c hInside.1 hInside.2)
  · have hNothing : fb.overlay (.fill (· == p) c) = fb := by
      refine overlay_eq_self hSound fun q hx hy => ?_
      have hNe : q ≠ p := by
        rintro rfl
        exact hInside ⟨hx, hy⟩
      simp [Layer.fill, hNe]
    rw [hNothing]
    exact Paint.Ends.of_run (run_setPixel_outside c hInside)

/-- The points of a row from the column `first` up to the column `stop`. -/
def inSpan (y : Word) (first stop : Nat) (p : Point) : Bool :=
  decide (p.y = y ∧ first ≤ p.x.toNat ∧ p.x.toNat < stop)

/-- A span with one more column is the span with the next point. -/
theorem fill_inSpan_succ {y : Word} {first n : Nat} {p : Point} (hColumn : p.x.toNat = first + n)
    (hRow : p.y = y) (c : Color) :
    Layer.fill (inSpan y first (first + (n + 1))) c =
      (Layer.fill (· == p) c).onto (.fill (inSpan y first (first + n)) c) := by
  funext q
  by_cases hNext : q = p
  · subst hNext
    rw [Layer.onto_of_eq_some (c := c) (by simp [Layer.fill])]
    exact if_pos (decide_eq_true ⟨hRow, by omega, by omega⟩)
  · have hOther : Layer.fill (· == p) c q = none := by simp [Layer.fill, hNext]
    have hSame : inSpan y first (first + (n + 1)) q = inSpan y first (first + n) q := by
      refine decide_eq_decide.mpr ⟨fun h => ⟨h.1, h.2.1, ?_⟩, fun h => ⟨h.1, h.2.1, by omega⟩⟩
      have hNe : q.x.toNat ≠ first + n := by
        intro hLast
        have hx : q.x = p.x := UInt64.toNat_inj.mp (hLast.trans hColumn.symm)
        have hy : q.y = p.y := h.1.trans hRow.symm
        exact hNext (show Point.mk q.x q.y = p by rw [hx, hy])
      omega
    rw [Layer.onto_of_eq_none hOther, Layer.fill, Layer.fill, hSame]

/-- Pixels that are written one after the other to a row are a span of the picture. -/
theorem overlay_span {fb : Framebuffer} (hSound : fb.Sound) {x y : Word} (hy : y < fb.height)
    (c : Color) {n : Nat} (hFits : x.toNat + n ≤ fb.width.toNat) :
    fb.overlay (.fill (inSpan y x.toNat (x.toNat + n)) c) =
      ⟨fb.layout, writePixels fb.memory (fb.place x y) (fb.layout.format.encode c) n⟩ := by
  induction n with
  | zero =>
    refine overlay_eq_self hSound fun p _ _ => if_neg fun hInside => ?_
    obtain ⟨-, hFirst, hStop⟩ := of_decide_eq_true hInside
    omega
  | succ n ih =>
    have hWidth := fb.width.toNat_lt
    have hColumn : (UInt64.ofNat (x.toNat + n)).toNat = x.toNat + n :=
      UInt64.toNat_ofNat_of_lt' (show x.toNat + n < 1 <<< 64 by omega)
    generalize UInt64.ofNat (x.toNat + n) = column at hColumn
    have hx : column < fb.width := by
      rw [UInt64.lt_iff_toNat_lt]
      omega
    have hPlace : fb.place column y =
        fb.place x y + n * (fb.layout.format.encode c).length := by
      rw [place, place, hColumn, Nat.add_mul, PixelFormat.length_encode, Nat.add_assoc]
    have hWritten := overlay_pixel (p := ⟨column, y⟩)
      (hSound.overlay (.fill (inSpan y x.toNat (x.toNat + n)) c)) hx hy c
    rw [overlay_overlay, ← fill_inSpan_succ hColumn rfl, ih (by omega)] at hWritten
    rw [hWritten, writePixels, ← hPlace]
    rfl

/-- Painting columns of a row is laying their points. -/
theorem lays_fillSpan {layout : DisplayLayout} {y first stop : Word}
    (hRow : y.toNat < layout.height.toNat) (hOrder : first.toNat ≤ stop.toNat)
    (hStop : stop.toNat ≤ layout.width.toNat) (c : Color) :
    Lays layout (fillSpan y first stop c) () (.fill (inSpan y first.toNat stop.toNat) c) := by
  rintro fb hSound rfl
  have hy : y < fb.height := UInt64.lt_iff_toNat_lt.mpr hRow
  have hWritten := overlay_span hSound hy c (x := first) (n := stop.toNat - first.toNat)
    (by rw [Nat.add_sub_cancel' hOrder]; exact hStop)
  rw [Nat.add_sub_cancel' hOrder] at hWritten
  rw [hWritten]
  exact Paint.Ends.of_run (hSound.run_fillSpan c hy hOrder hStop)

theorem contains_bounds {fb : Framebuffer} {p : Point} :
    fb.bounds.contains p = true ↔ p.x < fb.width ∧ p.y < fb.height := by
  have hWidth := fb.width.toNat_lt
  have hHeight := fb.height.toNat_lt
  rw [Rect.contains_iff, Rect.toNat_right, Rect.toNat_bottom, UInt64.lt_iff_toNat_lt,
    UInt64.lt_iff_toNat_lt, bounds]
  simp only [UInt64.toNat_zero]
  omega

/-- A clipped rectangle ends where the picture does or before. -/
theorem right_le_of_clipTo? {fb : Framebuffer} {rect clipped : Rect}
    (h : rect.clipTo? fb.bounds = some clipped) :
    clipped.right.toNat ≤ fb.width.toNat ∧ clipped.bottom.toNat ≤ fb.height.toNat := by
  obtain ⟨-, -, hRight, hBottom⟩ := Rect.clipTo?_eq_some h
  rw [Rect.toNat_right fb.bounds] at hRight
  rw [Rect.toNat_bottom fb.bounds] at hBottom
  rw [Rect.toNat_right, Rect.toNat_bottom, hRight, hBottom, bounds]
  simp only [UInt64.toNat_zero]
  omega

/-- The rows of a rectangle in the picture make the rectangle. -/
theorem lays_rows {layout : DisplayLayout} {r : Rect} (hRight : r.right.toNat ≤ layout.width.toNat)
    (hBottom : r.bottom.toNat ≤ layout.height.toNat) (c : Color) :
    Lays layout (Paint.forEach r.rows fun y => fillSpan y r.x r.right c) ()
      (.fill r.contains c) := by
  have hOrder : r.x.toNat ≤ r.right.toNat := by
    have hx := r.x.toNat_lt
    rw [Rect.toNat_right]
    omega
  have hRows : Layer.stack (r.rows.map fun y => .fill (inSpan y r.x.toNat r.right.toNat) c) =
      .fill r.contains c := by
    refine ((Layer.colours_stack fun y _ => Layer.colours_fill _ c).congr fun p => ?_).unique
      (Layer.colours_fill r.contains c)
    rw [Rect.contains_iff]
    constructor
    · rintro ⟨y, hRow, hInside⟩
      obtain ⟨rfl, hFirst, hStop⟩ := of_decide_eq_true hInside
      exact ⟨hFirst, hStop, Rect.mem_rows.mp hRow⟩
    · rintro ⟨hFirst, hStop, hRow⟩
      exact ⟨p.y, Rect.mem_rows.mpr hRow, decide_eq_true ⟨rfl, hFirst, hStop⟩⟩
  rw [← hRows]
  refine lays_forEach fun y hRow => lays_fillSpan ?_ hOrder hRight c
  exact Nat.lt_of_lt_of_le (Rect.mem_rows.mp hRow).2 hBottom

/-- Painting a rectangle is laying its points, of which those in the picture matter. -/
theorem lays_fillRect (layout : DisplayLayout) (rect : Rect) (c : Color) :
    Lays layout (fillRect rect c) () (.fill rect.contains c) := by
  intro fb hSound hLayout
  refine Paint.ends_bind.mpr ⟨fb.bounds, fb, Paint.ends_read.mpr ⟨rfl, rfl⟩, ?_⟩
  cases hClip : rect.clipTo? fb.bounds with
  | none =>
    have hNothing : fb.overlay (.fill rect.contains c) = fb := by
      refine overlay_eq_self hSound fun p hx hy => ?_
      have hOutside := Rect.not_contains_of_clipTo?_eq_none hClip p
      rw [contains_bounds] at hOutside
      exact if_neg fun hContains => hOutside ⟨hContains, hx, hy⟩
    rw [hNothing]
    exact Paint.ends_pure.mpr ⟨rfl, rfl⟩
  | some clipped =>
    have hSame : fb.overlay (.fill rect.contains c) = fb.overlay (.fill clipped.contains c) := by
      refine overlay_congr hSound fun p hx hy => ?_
      have hBoth := Rect.contains_of_clipTo?_eq_some hClip p
      rw [contains_bounds, and_iff_left ⟨hx, hy⟩] at hBoth
      rw [Layer.fill, Layer.fill, Bool.eq_iff_iff.mpr hBoth]
    obtain ⟨hRight, hBottom⟩ := right_le_of_clipTo? hClip
    rw [hSame]
    exact lays_rows (hLayout ▸ hRight) (hLayout ▸ hBottom) c fb hSound hLayout

/-- The thickness of a border as it is painted, and so at most half of either side. -/
def borderThickness (rect : Rect) (thickness : Word) : Word :=
  min (min thickness (rect.width / 2 + rect.width % 2)) (rect.height / 2 + rect.height % 2)

/-- The points of a border, in four strips. -/
def border (rect : Rect) (thickness : Word) (c : Color) : Layer :=
  let t := borderThickness rect thickness
  if t = 0 then .empty
  else Layer.stack
    [.fill (Rect.contains ⟨rect.x, rect.y, rect.width, t⟩) c,
      .fill (Rect.contains ⟨rect.x, rect.bottom - t, rect.width, t⟩) c,
      .fill (Rect.contains ⟨rect.x, rect.y, t, rect.height⟩) c,
      .fill (Rect.contains ⟨rect.right - t, rect.y, t, rect.height⟩) c]

theorem toNat_borderThickness (rect : Rect) (thickness : Word) :
    (borderThickness rect thickness).toNat =
      min (min thickness.toNat ((rect.width.toNat + 1) / 2)) ((rect.height.toNat + 1) / 2) := by
  have hHalf (a : Word) : (a / 2 + a % 2).toNat = (a.toNat + 1) / 2 := by
    have hDiv : (a / 2).toNat = a.toNat / 2 := UInt64.toNat_div a 2
    have hMod : (a % 2).toNat = a.toNat % 2 := UInt64.toNat_mod a 2
    have ha := a.toNat_lt
    rw [Word.toNat_add_of_lt (by omega)]
    omega
  rw [borderThickness, Word.toNat_min, Word.toNat_min, hHalf, hHalf]

theorem borderThickness_le (rect : Rect) (thickness : Word) :
    (borderThickness rect thickness).toNat ≤ rect.width.toNat ∧
      (borderThickness rect thickness).toNat ≤ rect.height.toNat := by
  rw [toNat_borderThickness]
  omega

/-- Painting a border is laying its strips. There is room for each of them. -/
theorem lays_drawFrame (layout : DisplayLayout) (rect : Rect) (thickness : Word) (c : Color) :
    Lays layout (drawFrame rect thickness c) () (border rect thickness c) := by
  obtain ⟨hWidth, hHeight⟩ := borderThickness_le rect thickness
  have hBottom := Word.subExact_of_ge
    (show (borderThickness rect thickness).toNat ≤ rect.bottom.toNat by
      rw [Rect.toNat_bottom]
      have := rect.height.toNat_lt
      omega)
  have hRight := Word.subExact_of_ge
    (show (borderThickness rect thickness).toNat ≤ rect.right.toNat by
      rw [Rect.toNat_right]
      have := rect.width.toNat_lt
      omega)
  unfold drawFrame border
  show Lays layout (if borderThickness rect thickness = 0 then _ else _) ()
    (if borderThickness rect thickness = 0 then _ else _)
  split
  · exact lays_pure ()
  · simp only [Layer.stack, Layer.empty_onto]
    refine Lays.bind (lays_fillRect layout _ c) ?_
    refine Lays.bind_empty (lays_lift hBottom) ?_
    refine Lays.bind (lays_fillRect layout _ c) ?_
    refine Lays.bind (lays_fillRect layout _ c) ?_
    refine Lays.bind_empty (lays_lift hRight) ?_
    exact lays_fillRect layout _ c

end Framebuffer

end TouchPanel
