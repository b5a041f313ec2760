import TouchPanel.Proofs.Display.AllOrNothing
import TouchPanel.Proofs.Display.Drawing
import TouchPanel.Proofs.Display.PixelMap

/-!
# The dirty flag of a screen

A screen is dirty when something was drawn on it since it was presented. Much can happen in between
that would get the flag wrong: texts without a font or without a single bitmap, rectangles outside of
the picture, and drawing that faults half way, alone or in the middle of a step of a widget tree. The
flag may be set without need, but a change of display memory is never missed.

* `ScreenOperation` — what is done to a screen, where a fault is the end of it.
* `lastPresented`   — display memory when it was presented last.
* `Screen.Noticed`  — no change without the flag, between two states of a screen.
* `noticed_perform` — whatever is done to a screen is noticed, unless it is presented.
* `memory_of_clean` — a clean screen shows what was presented last.
-/

namespace TouchPanel

variable {O : Type} [OutcomeLabel O]

-- ---------------------------------------------------------------------------
-- Operations
-- ---------------------------------------------------------------------------

/-- What is done to a screen. -/
inductive ScreenOperation (O : Type) where
  | clear
  | present
  | setFont (font : Font)
  | drawRect (area : Rect) (color : Color)
  | drawFrame (area : Rect) (thickness : Word) (color : Color)
  | drawText (corner : Point) (text : String) (color : Color)
  | textSize (text : String)
  | step (tree : Node O) (origin : Point) (tick : Tick)

namespace ScreenOperation

/-- Does one thing to a screen. -/
def perform : ScreenOperation O → Paint Screen Unit
  | clear => Screen.clear
  | present => Screen.present
  | setFont font => Screen.setFont font
  | drawRect area c => Screen.drawRect area c
  | drawFrame area thickness c => Screen.drawFrame area thickness c
  | drawText corner text c => discard <| Screen.drawText corner text c
  | textSize text => discard <| Canvas.measure text
  | step tree origin tick => discard <| tree.step origin tick

/-- Does one thing after the other, until something faults. -/
def performAll (operations : List (ScreenOperation O)) : Paint Screen Unit :=
  Paint.forEach operations perform

/-- Display memory if it is presented by the operation. -/
def presented? : ScreenOperation O → Screen → Option (Array UInt8)
  | present, s => some s.framebuffer.memory
  | _, _ => none

/-- Display memory when it was presented last, if it was presented before something faulted. -/
def lastPresented : List (ScreenOperation O) → Screen → Option (Array UInt8)
  | [], _ => none
  | operation :: rest, s =>
      match operation.perform.run s with
      | .done _ t _ => (lastPresented rest t).or (operation.presented? s)
      | .faulted _ _ _ => none

end ScreenOperation

-- ---------------------------------------------------------------------------
-- Changes that are noticed
-- ---------------------------------------------------------------------------

namespace Screen

/-- A screen as it can be: its memory is as large as its layout asks for, and its font, if it has
one, comes from a file. -/
structure Usable (s : Screen) : Prop where
  sound : s.framebuffer.Sound
  fromFile : ∀ font ∈ s.font, font.FromFile

/-- Between the screens `s` and `t` display memory was not changed without setting the flag. -/
def Noticed (s t : Screen) : Prop :=
  s.Usable → t.Usable ∧ (t.dirty = false → s.dirty = false ∧ t.framebuffer = s.framebuffer)

instance : IsPreorder Screen Noticed where
  refl s hUsable := ⟨hUsable, fun hClean => ⟨hClean, rfl⟩⟩
  trans s t u hst htu hUsable := by
    obtain ⟨hMiddle, hFirst⟩ := hst hUsable
    obtain ⟨hEnd, hSecond⟩ := htu hMiddle
    refine ⟨hEnd, fun hClean => ?_⟩
    obtain ⟨hBetween, hLater⟩ := hSecond hClean
    obtain ⟨hBefore, hEarlier⟩ := hFirst hBetween
    exact ⟨hBefore, hLater.trans hEarlier⟩

/-- A dirty screen has noticed everything. -/
theorem noticed_of_dirty {s t : Screen} (hSound : s.Usable → t.framebuffer.Sound)
    (hFont : t.font = s.font) (hDirty : t.dirty = true) : s.Noticed t := by
  refine fun hUsable => ⟨⟨hSound hUsable, ?_⟩, fun hClean => ?_⟩
  · rw [hFont]
    exact hUsable.fromFile
  · rw [hDirty] at hClean
    cases hClean

/-- Painting that lays a layer is noticed, since it ends. -/
theorem noticed_painted {m : Paint Framebuffer Unit} {layer : DisplayLayout → Layer}
    (hLays : ∀ layout, Framebuffer.Lays layout m () (layer layout)) :
    (do onFramebuffer m; touch : Paint Screen Unit).Respects Noticed := by
  intro s hUsable
  have hEnds := ends_painted.mpr
    ⟨_, hLays s.framebuffer.layout s.framebuffer hUsable.sound rfl, rfl⟩
  rw [hEnds.surface_run]
  exact noticed_of_dirty (fun h => h.sound.overlay _) rfl rfl hUsable

/-- Where the text faults, so does writing it on a screen. -/
theorem run_drawText_of_faulted {s : Screen} {font : Font} (hFont : s.font = some font)
    {corner : Point} {text : String} {c : Color} {fault : Fault} {fb : Framebuffer}
    {events : List Event}
    (hChars : (drawChars font c text.toList corner).run s.framebuffer = .faulted fault fb events) :
    (drawText corner text c).run s = .faulted fault { s with framebuffer := fb } events := by
  obtain ⟨framebuffer, font?, background, dirty⟩ := s
  obtain rfl : font? = some font := hFont
  have hPaint : (onFramebuffer (drawChars font c text.toList corner)).run
      ⟨framebuffer, some font, background, dirty⟩ =
        .faulted fault ⟨fb, some font, background, dirty⟩ events := by
    simp only [Paint.run, onFramebuffer] at hChars ⊢
    rw [hChars]
  rw [drawText, Paint.run_bind_of_done (Paint.run_read _ _), Paint.run_bind_of_faulted hPaint]
  rfl

theorem noticed_drawText (corner : Point) (text : String) (c : Color) :
    (drawText corner text c).Respects Noticed := by
  intro s hUsable
  cases hFont : s.font with
  | none =>
    have hEnds : (drawText corner text c).Ends s 0 s :=
      (ends_drawText_of_no_font hFont).mpr ⟨rfl, rfl⟩
    rw [hEnds.surface_run]
    exact refl_of Noticed s hUsable
  | some font =>
    rcases ends_or_faults_drawChars hUsable.sound (hUsable.fromFile font hFont) c text.toList corner
      with ⟨n, fb, hChars, hSound⟩ | ⟨fault, events, hChars⟩
    · have hEnds := (ends_drawText_of_font hFont).mpr ⟨fb, hChars, rfl⟩
      rw [hEnds.surface_run]
      exact noticed_of_dirty (fun _ => hSound) rfl rfl hUsable
    · rw [run_drawText_of_faulted hFont hChars]
      exact refl_of Noticed s hUsable

theorem noticed_clear : clear.Respects Noticed := by
  refine (Paint.respects_read _).bind fun c => ?_
  exact noticed_painted fun layout => PaintCall.lays_perform layout (.clear c)

/-- **Nothing that is drawn on a screen goes unnoticed**, not even if it faults. -/
theorem canvas_respects_noticed : Canvas.Respects Noticed where
  drawRect area c := noticed_painted fun layout => Framebuffer.lays_fillRect layout area c
  drawFrame area thickness c :=
    noticed_painted fun layout => Framebuffer.lays_drawFrame layout area thickness c
  drawText := noticed_drawText

end Screen

namespace ScreenOperation

open Screen

/-- Whatever is done to a screen is noticed, unless it is presented. -/
theorem noticed_perform {operation : ScreenOperation O} {s : Screen}
    (hFont : ∀ font, operation = .setFont font → font.FromFile) (hNot : operation ≠ .present) :
    s.Noticed (operation.perform.run s).surface := by
  cases operation with
  | clear => exact noticed_clear s
  | present => exact absurd rfl hNot
  | setFont font =>
    intro hUsable
    refine ⟨⟨hUsable.sound, fun other hOther => ?_⟩, fun hClean => ⟨hClean, rfl⟩⟩
    cases hOther
    exact hFont font rfl
  | drawRect area c => exact canvas_respects_noticed.drawRect area c s
  | drawFrame area thickness c => exact canvas_respects_noticed.drawFrame area thickness c s
  | drawText corner text c => exact (noticed_drawText corner text c).discard s
  | textSize text => exact (Canvas.respects_measure text).discard s
  | step tree origin tick =>
    exact (tree.respects_step canvas_respects_noticed origin tick).discard s

/-- What is known at the end of a run if the screen is clean then: either display memory is as it
was presented last, or it was never presented, and nothing was noticed since the start. -/
theorem lastPresented_of_clean {operations : List (ScreenOperation O)} {s : Screen}
    (hUsable : s.Usable) (hFonts : ∀ font, .setFont font ∈ operations → font.FromFile)
    (hClean : ((performAll operations).run s).surface.dirty = false) :
    lastPresented operations s = some ((performAll operations).run s).surface.framebuffer.memory ∨
      lastPresented operations s = none ∧ s.dirty = false ∧
        ((performAll operations).run s).surface.framebuffer = s.framebuffer := by
  induction operations generalizing s with
  | nil => exact .inr ⟨rfl, hClean, rfl⟩
  | cons operation rest ih =>
    have hFirst (font : Font) (h : operation = .setFont font) : font.FromFile :=
      hFonts font (h ▸ List.mem_cons_self)
    have hRest (font : Font) (h : .setFont font ∈ rest) : font.FromFile :=
      hFonts font (List.mem_cons_of_mem operation h)
    rw [performAll, Paint.forEach_cons] at hClean ⊢
    rw [lastPresented]
    cases hRun : operation.perform.run s with
    | faulted fault t events =>
      -- the operation is the end of the run
      have hNotPresent : operation ≠ .present := by
        rintro rfl
        cases hRun
      have hNoticed := noticed_perform hFirst hNotPresent hUsable
      rw [Paint.run_bind_of_faulted hRun] at hClean ⊢
      rw [hRun] at hNoticed
      exact .inr ⟨rfl, hNoticed.2 hClean⟩
    | done r t events =>
      rw [Paint.run_bind_of_done hRun, Painted.surface_following] at hClean ⊢
      by_cases hPresent : operation = .present
      · -- display memory is presented now, and maybe again later
        subst hPresent
        obtain rfl : { s with dirty := false } = t := by
          cases hRun
          rfl
        have hStill : Screen.Usable { s with dirty := false } := ⟨hUsable.sound, hUsable.fromFile⟩
        left
        rcases ih hStill hRest hClean with hLast | ⟨hNone, -, hSame⟩
        · simp only [hLast, Option.some_or]
          rfl
        · simp only [hNone, Option.none_or, presented?]
          exact congrArg some (congrArg Framebuffer.memory hSame).symm
      · have hNoticed := noticed_perform hFirst hPresent hUsable
        have hNever : operation.presented? s = none := by
          cases operation with
          | present => exact absurd rfl hPresent
          | _ => rfl
        rw [hRun] at hNoticed
        simp only [hNever, Option.or_none]
        rcases ih hNoticed.1 hRest hClean with hLast | ⟨hNone, hBetween, hSame⟩
        · exact .inl hLast
        · obtain ⟨hBefore, hFirst⟩ := hNoticed.2 hBetween
          exact .inr ⟨hNone, hBefore, hSame.trans hFirst⟩

/-- **A change is never missed.** A screen is taken over with a memory of the size that its layout
asks for, and all fonts that are set come from a file. Whatever is done to it then, up to a fault if
there is one: if the screen is clean in the end, then it was presented, and every byte of display
memory is as it was when it was presented last. -/
theorem memory_of_clean {layout : DisplayLayout} {memory : Array UInt8} {background : Color}
    (hSize : memory.size = layout.stride.toNat * layout.height.toNat)
    (hLt : memory.size < 1 <<< 64) {operations : List (ScreenOperation O)}
    (hFonts : ∀ font, .setFont font ∈ operations → font.FromFile) {t : Screen}
    (hRun : ((performAll operations).run (Screen.attach layout memory background).1).surface = t)
    (hClean : t.dirty = false) :
    lastPresented operations (Screen.attach layout memory background).1 =
      some t.framebuffer.memory := by
  have hUsable : (Screen.attach layout memory background).1.Usable :=
    ⟨Framebuffer.sound_attach hSize hLt, fun _ hFont => nomatch hFont⟩
  rw [← hRun] at hClean ⊢
  rcases lastPresented_of_clean hUsable hFonts hClean with hLast | ⟨-, hNoticed, -⟩
  · exact hLast
  · -- a screen that was just taken over is dirty
    cases hNoticed

/-- A text is presented. One more text begins at the edge of the plane, which is a fault, so the
rectangle after it is not drawn. -/
def faultAfterPresent : List (ScreenOperation UInt32) :=
  [.setFont { dashes with height := 40, glyphCount := 200 }, .clear,
    .drawText ⟨1, 1⟩ "!é#" .white, .present, .textSize "!!", .drawText ⟨.top, 0⟩ "#" .white,
    .drawRect ⟨0, 0, 5, 5⟩ .white]

theorem memory_of_clean_faultAfterPresent :
    ∃ t, ((performAll faultAfterPresent).run
        (Screen.attach ⟨9, 2, 28, .rgb⟩ (Array.replicate 56 0) .black).1).surface = t ∧
      t.dirty = false ∧
      lastPresented faultAfterPresent
        (Screen.attach ⟨9, 2, 28, .rgb⟩ (Array.replicate 56 0) .black).1 =
          some t.framebuffer.memory := by
  have hClean : ((performAll faultAfterPresent).run
      (Screen.attach ⟨9, 2, 28, .rgb⟩ (Array.replicate 56 0) .black).1).surface.dirty =
        false := by
    decide +kernel
  refine ⟨_, rfl, hClean, memory_of_clean Array.size_replicate ?_ (fun font hFont => ?_) rfl hClean⟩
  · rw [Array.size_replicate]
    decide
  · have hTall : font = { dashes with height := 40, glyphCount := 200 } := by
      simpa [faultAfterPresent] using hFont
    rw [hTall]
    exact ⟨dashesData, dashes, load_dashesData, rfl, rfl⟩

end ScreenOperation

end TouchPanel
