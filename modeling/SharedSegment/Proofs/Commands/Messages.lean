import SharedSegment.Proofs.Commands.Works

/-!
# Messages

A text that one command writes into a segment is printed by the next one that reads it, as far as
it fits (`written_texts_are_read_back`). The writer replaces the whole payload and changes nothing
else (`Host.Receives`). A text that fills the payload needs no zero behind it, and of a character
that does not fit in as a whole the reader shows U+FFFD (`Text.IsShown`).
-/

namespace SharedSegment
open Program Command

/-- The payload of an object was replaced by the bytes of a text, as far as they fit, and zeros.
Nothing else was changed, and nobody has the lock. -/
structure Host.Receives (h : Host) (k : ObjectId) (o : Object) (text : String) (h' : Host) :
    Prop where
  store : h'.store = h.store
  others : ∀ j ≠ k, h'.object? j = h.object? j
  object : ∃ o', h'.object? k = some o' ∧ o'.length = o.length ∧ o'.mode = o.mode ∧
    o'.sizeField = o.sizeField ∧
    (∀ i, i < Layout.headerSize ∨ Layout.headerSize + o.sizeField.toNat ≤ i →
      o'.bytes i = o.bytes i) ∧
    o'.payload = (Text.Utf8.bytes text).take o.sizeField.toNat ++
      List.replicate (o.sizeField.toNat - text.utf8ByteSize) 0 ∧
    o'.mutex.hold = .free

/-- What is shown of a text of which a number of bytes was kept: the text if that was all of it, or
else its longest part within them, and a mark if they end inside a character. -/
structure Text.IsShown (kept : Nat) (text shown : String) : Prop where
  whole : text.utf8ByteSize ≤ kept → shown = text
  cut : kept < text.utf8ByteSize → ∃ p, Text.IsCut kept text.toList p ∧
    shown.toList = p ++
      if Text.Utf8.isBoundary (Text.Utf8.bytes text) kept then [] else ['\uFFFD']

namespace Text

lemma Utf8.length_bytes (text : String) : (Utf8.bytes text).length = text.utf8ByteSize := by
  rw [Utf8.bytes, Utf8.length_encode, byteLength_eq_utf8ByteSize]

/-- Replacing what is ill-formed shows what was kept of a text. -/
lemma isShown_decodeLossy (kept : Nat) (text : String) :
    IsShown kept text (Utf8.decodeLossy ((Utf8.bytes text).take kept)) where
  whole := by
    intro fits
    have all : (Utf8.bytes text).take kept = Utf8.encode text.toList :=
      List.take_of_length_le (Nat.le_trans (Nat.le_of_eq (Utf8.length_bytes text)) fits)
    rw [Utf8.decodeLossy, all, Utf8.decodeLossyChars_encode, String.ofList_toList]
  cut := by
    intro exceeds
    rw [← byteLength_eq_utf8ByteSize] at exceeds
    refine ⟨_, isCut_takeBytes kept text.toList, ?_⟩
    rw [Utf8.decodeLossy, String.toList_ofList]
    exact Utf8.decodeLossyChars_take text.toList kept (Nat.le_of_lt exceeds)

end Text

namespace Command

/-- A command line asks for an action, and its settings can be loaded. -/
def Orders (env : Environment) (words : List String) (a : Action) (c : Config) : Prop :=
  ∃ i, Invocation.ofWords words = .ok i ∧ i.action = a ∧ settings env i.config = .ok c

/-- Behind two dashes every text is taken as it is. -/
lemma orders_write (env : Environment) (raw text : String) :
    Orders env ["write", "--", raw, text] (.write raw text) (.ofToggle env.toggle) :=
  ⟨⟨none, false, .write raw text⟩, rfl, rfl, rfl⟩

lemma orders_read (env : Environment) (raw : String) :
    Orders env ["read", "--", raw] (.read raw false) (.ofToggle env.toggle) :=
  ⟨⟨none, false, .read raw false⟩, rfl, rfl, rfl⟩

variable {env : Environment} {words : List String} {raw text : String} {c : Config} {h : Host}
  {t : ThreadId} {n : Name} {k : ObjectId} {o : Object}

section
variable (named : Name.ofRaw raw = .ok n) (offers : h.Offers n k o) (vacant : o.mutex.IsVacant)
  (awake : o.mutex.isQueued t = false)
include named offers vacant awake

/-- A text is written into the segment that is offered under the name. -/
theorem ensures_write (writes : Orders env words (.write raw text) c) :
    (program env words).Ensures (.printing t)
      (fun e s => e = .succeeded ∧ ∃ x y, o.mutex.IsReturned x ∧ s.1.store = h.store ∧
        s.1.objects = h.objects.set k
          (((o.inscribed (Text.Utf8.bytes text)).withMutex x).withCondition y)) (h, []) := by
  obtain ⟨i, understood, asks, loads⟩ := writes
  refine ensures_program understood loads ?_
  rw [asks]
  refine ensures_onOffered (validate_of_settings loads) named offers ?_
  intro f h₁ visits store objects
  refine ((calm_writeWork visits awake vacant.owner? text).printing _).mono ?_
  rintro r ⟨_, _⟩ (⟨taken, -⟩ | ⟨-, rfl, x, y, returned, rfl⟩) h₂ store' objects'
  · exact absurd vacant taken
  · refine ⟨rfl, x, y, returned, store'.trans store, objects'.trans ?_⟩
    exact congrArg (List.set · k _) objects

/-- The text in the payload of the segment is printed that is offered under the name. -/
theorem ensures_read (reads : Orders env words (.read raw false) c) :
    (program env words).Ensures (.printing t)
      (fun e s => e = .succeeded ∧ s.2 =
        [Text.Utf8.decodeLossy (o.readText Layout.headerSize o.sizeField.toNat)]) (h, []) := by
  obtain ⟨i, understood, asks, loads⟩ := reads
  refine ensures_program understood loads ?_
  rw [asks]
  refine ensures_onOffered (validate_of_settings loads) named offers ?_
  intro f h₁ visits _ _
  refine (ensures_readWork visits awake vacant.owner? []).mono ?_
  rintro r ⟨_, _⟩ (⟨taken, -⟩ | ⟨-, rfl, -, rfl⟩) h₂ - -
  · exact absurd vacant taken
  · exact ⟨rfl, rfl⟩

end
end Command

section
variable {h h' : Host} {n : Name} {k : ObjectId} {o o' : Object} {text : String} {x : Mutex}
  {y : Condition}

/-- A segment whose object was replaced by one of the same size, length and mode is offered on. -/
lemma Host.Offers.replaced (offers : h.Offers n k o) (store : h'.store = h.store)
    (objects : h'.objects = h.objects.set k o') (length : o'.length = o.length)
    (mode : o'.mode = o.mode) (size : o'.sizeField = o.sizeField) : h'.Offers n k o' where
  bound := store ▸ offers.bound
  object := (Host.object?_of_set offers.object objects).1
  permits := by
    have permits := offers.permits
    rwa [Object.isReadable, Object.isWritable, ← mode] at permits
  length := by
    rw [size, length]
    exact offers.length
  published := size.symm ▸ offers.published

lemma Host.receives_of_inscribed (here : h.object? k = some o) (store : h'.store = h.store)
    (objects : h'.objects = h.objects.set k
      (((o.inscribed (Text.Utf8.bytes text)).withMutex x).withCondition y))
    (returned : o.mutex.IsReturned x) : h.Receives k o text h' where
  store := store
  others := (Host.object?_of_set here objects).2
  object := by
    refine ⟨_, (Host.object?_of_set here objects).1, rfl, rfl, Object.inscribed_sizeField,
      fun i => Object.inscribed_outside, ?_, returned.free⟩
    rw [← Text.Utf8.length_bytes]
    exact Object.inscribed_payload

end

/-- What one command writes into a segment whose lock nobody has, or whose last owner is dead, is
printed by the next one that reads it: the text, if it fits, or else what fits of it. -/
theorem written_texts_are_read_back {env env' : Environment} {words words' : List String}
    {raw raw' text : String} {c c' : Config} {h : Host} {t t' : ThreadId} {n : Name} {k : ObjectId}
    {o : Object} (writes : Orders env words (.write raw text) c)
    (reads : Orders env' words' (.read raw' false) c') (named : Name.ofRaw raw = .ok n)
    (named' : Name.ofRaw raw' = .ok n) (offers : h.Offers n k o) (vacant : o.mutex.IsVacant)
    (awake : o.mutex.isQueued t = false) (awake' : o.mutex.isQueued t' = false)
    (clean : '\x00' ∉ text.toList) :
    let written := (program env words).run t .none [] h
    let read := (program env' words').run t' .none [] written.2
    written.1.value? = some .succeeded ∧ h.Receives k o text written.2 ∧
      read.1.value? = some .succeeded ∧
      ∃ shown, read.1.lines = [shown] ∧ Text.IsShown o.sizeField.toNat text shown := by
  intro written read
  obtain ⟨_, succeeded, rfl, x, y, returned, store, objects⟩ :=
    (ensures_write named offers vacant awake writes).run_printing
  -- The writer leaves a segment of the same size under the name, with a mutex that is vacant again.
  have offers' : written.2.Offers n k _ :=
    offers.replaced store objects rfl rfl Object.inscribed_sizeField
  obtain ⟨_, succeeded', rfl, printed⟩ :=
    (ensures_read named' offers' (returned.isVacant vacant) (returned.awake t' awake')
      reads).run_printing
  -- As the text has no zero byte, the reader misses nothing of it but what did not fit.
  have zeroFree : 0 ∉ Text.Utf8.bytes text := Text.Utf8.zero_notMem_encode clean
  have kept : (((o.inscribed (Text.Utf8.bytes text)).withMutex x).withCondition y).readText
      Layout.headerSize o.sizeField.toNat = (Text.Utf8.bytes text).take o.sizeField.toNat := by
    rw [← Object.inscribed_readText zeroFree]
    exact Object.readText_congr (by rfl) ..
  have size : (((o.inscribed (Text.Utf8.bytes text)).withMutex x).withCondition y).sizeField =
      o.sizeField := Object.inscribed_sizeField
  rw [size, kept] at printed
  exact ⟨succeeded, Host.receives_of_inscribed offers.object store objects returned, succeeded',
    _, printed, Text.isShown_decodeLossy ..⟩

/-- For an example: a segment of four bytes that was full, and whose last owner has died. -/
def Host.bequeathed : Host :=
  { store := ⟨[("s", .object 0)]⟩
    objects := [⟨Layout.headerSize + 4, fun i => if i = 0 then 4 else if i < 96 then 0 else 255,
      0o600, ⟨.live, .abandoned, []⟩, .fresh⟩]
    files := []
    mappings := [] }

/-- A text that is cut inside its last character is read back with a mark in its place. -/
theorem a_text_that_is_cut_inside_a_character_is_marked :
    Host.bequeathed.Offers .sample 0 Host.bequeathed.objects[0] ∧
    (let written := (program ⟨none, .empty⟩ ["write", "--", "s", "-éé"]).run 0 .none [] .bequeathed
      let read := (program ⟨none, .empty⟩ ["read", "--", "/s"]).run 1 .none [] written.2
      written.1.value? = some .succeeded ∧
        Host.bequeathed.Receives 0 Host.bequeathed.objects[0] "-éé" written.2 ∧
        read.1.value? = some .succeeded ∧ read.1.lines = ["-é\uFFFD"]) := by
  have offers : Host.bequeathed.Offers .sample 0 Host.bequeathed.objects[0] :=
    ⟨rfl, rfl, by decide, by decide, by decide⟩
  have named : Name.ofRaw "s" = .ok .sample := by rfl
  have named' : Name.ofRaw "/s" = .ok .sample := by rfl
  obtain ⟨succeeded, receives, succeeded', shown, printed, isShown⟩ :=
    written_texts_are_read_back (t := 0) (orders_write ⟨none, .empty⟩ "s" "-éé")
      (orders_read ⟨none, .empty⟩ "/s") named named' offers ⟨by decide, by decide⟩ rfl
      (by decide : Host.bequeathed.objects[0].mutex.isQueued 1 = false) (by decide)
  refine ⟨offers, succeeded, receives, succeeded', ?_⟩
  obtain ⟨p, cut, marked⟩ := isShown.cut (by decide +kernel)
  have same : shown.toList = "-é\uFFFD".toList := by
    rw [marked, Text.isCut_iff.1 cut]
    decide +kernel
  rw [printed, String.toList_inj.1 same]

end SharedSegment
