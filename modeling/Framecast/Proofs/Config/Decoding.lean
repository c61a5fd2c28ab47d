import Framecast.Config.Load
import Framecast.Proofs.Config.Forms

set_option autoImplicit false

namespace Framecast

open Toml (Entries Item)

structure Geometry.WrittenIn (es : Entries) (g : Geometry) : Prop where
  width : es.Gives "width" (fun v n => v = .integer n.toNat) Geometry.vga.width g.width
  height : es.Gives "height" (fun v n => v = .integer n.toNat) Geometry.vga.height g.height
  bytesPerSample : es.Gives "bytes_per_sample" (fun v n => v = .integer n.toNat)
    Geometry.vga.bytesPerSample g.bytesPerSample

structure DeviceConfig.WrittenIn (es : Entries) (c : DeviceConfig) : Prop where
  kind : es.Gives "kind" (fun v x => v = .text x.spelling) .frameProducing c.variant
  geometry : c.geometry.WrittenIn (es.sub "geometry")
  pattern : es.Gives "pattern" (fun v p => v = .text p.spelling) .gradient c.pattern
  period : es.Gives "period_ms" (fun v n => v = .integer n.toNat)
    Device.Kind.defaultPeriod.count c.period.count
  buffers : es.Gives "buffers" (fun v n => v = .integer n.toNat) defaultBuffers c.buffers
  capacity : es.Gives "capacity" (fun v n => v = .integer n.toNat) defaultCapacity c.capacity

structure RelayConfig.WrittenIn (es : Entries) (c : RelayConfig) : Prop where
  bind : es.Gives "bind" (fun v e => ∃ s, v = .text s ∧ Endpoint.parse? s = some e)
    Endpoint.default c.bind
  frameBudget : es.Gives "frame_budget" (fun v n => v = .integer n.toNat)
    defaultFrameBudget c.frameBudget
  pollInterval : es.Gives "poll_interval_ms" (fun v n => v = .integer n.toNat)
    defaultPollInterval.count c.pollInterval.count
  sendBufferSize : es.Gives "send_buffer_size" (fun v n => ∃ m, n = some m ∧ v = .integer m.toNat)
    none c.sendBufferSize

namespace Config

structure WrittenIn (es : Entries) (c : Config) : Prop where
  device : c.device.WrittenIn (es.sub "device")
  relay : c.relay.WrittenIn (es.sub "relay")

end Config

-- in whatever form it is written
structure DeviceConfig.StatedIn (es : Entries) (c : DeviceConfig) : Prop where
  kind : es.Gives "kind" (fun v x => Config.Spells v x.spelling) .frameProducing c.variant
  geometry : c.geometry.WrittenIn (Config.geometrySchema.within es "geometry")
  pattern : es.Gives "pattern" (fun v p => Config.Spells v p.spelling) .gradient c.pattern
  period : es.Gives "period_ms" (fun v n => v = .integer n.toNat)
    Device.Kind.defaultPeriod.count c.period.count
  buffers : es.Gives "buffers" (fun v n => v = .integer n.toNat) defaultBuffers c.buffers
  capacity : es.Gives "capacity" (fun v n => v = .integer n.toNat) defaultCapacity c.capacity

namespace Config

structure StatedIn (es : Entries) (c : Config) : Prop where
  device : c.device.StatedIn (deviceSchema.within es "device")
  relay : c.relay.WrittenIn (relaySchema.within es "relay")

/-- Keys that a geometry does not have are ignored, whatever stands under them. -/
structure FitsGeometry (es : Entries) : Prop where
  width : es.Each "width" IsWord
  height : es.Each "height" IsWord
  bytesPerSample : es.Each "bytes_per_sample" IsWord

structure FitsDevice (es : Entries) : Prop where
  known : ∀ k ∈ es.keys,
    k ∈ ["kind", "geometry", "pattern", "period_ms", "buffers", "capacity"]
  kind : es.Each "kind" fun v => ∃ x : Variant, v = .text x.spelling
  geometry : FitsGeometry (es.sub "geometry")
  pattern : es.Each "pattern" fun v => ∃ p : Pattern, v = .text p.spelling
  period : es.Each "period_ms" IsWhole
  buffers : es.Each "buffers" IsWhole
  capacity : es.Each "capacity" IsWhole

structure FitsRelay (es : Entries) : Prop where
  known : ∀ k ∈ es.keys, k ∈ ["bind", "frame_budget", "poll_interval_ms", "send_buffer_size"]
  bind : es.Each "bind" fun v => ∃ s e, v = .text s ∧ Endpoint.parse? s = some e
  frameBudget : es.Each "frame_budget" IsWhole
  pollInterval : es.Each "poll_interval_ms" IsWhole
  sendBufferSize : es.Each "send_buffer_size" IsWhole

structure Fits (es : Entries) : Prop where
  known : ∀ k ∈ es.keys, k ∈ ["device", "relay"]
  device : FitsDevice (es.sub "device")
  relay : FitsRelay (es.sub "relay")

/-- Structures are written as tables and choices as texts. -/
structure Tame (es : Entries) : Prop where
  device : es.Each "device" fun v => v.isTable = true
  relay : es.Each "relay" fun v => v.isTable = true
  geometry : (es.sub "device").Each "geometry" fun v => v.isTable = true
  kind : (es.sub "device").Each "kind" fun v => ∃ s, v = .text s
  pattern : (es.sub "device").Each "pattern" fun v => ∃ s, v = .text s

variable {es es' : Entries} {s : String}

theorem geometrySchema_regular : geometrySchema.Regular :=
  ⟨by decide, by simp [geometrySchema]⟩

theorem fitsGeometry_iff (sound : es.Sound) :
    (∃ g, geometrySchema.ofEntries es = .ok g) ↔ FitsGeometry es := by
  rw [geometrySchema_regular.accepts_iff sound.distinct]
  simp only [geometrySchema, List.forall_mem_cons, Field.name_of, Field.exists_set_of,
    exists_word32]
  constructor
  · rintro ⟨-, width, height, bytesPerSample, -⟩
    exact ⟨width, height, bytesPerSample⟩
  · rintro ⟨width, height, bytesPerSample⟩
    exact ⟨.inl trivial, width, height, bytesPerSample, by simp⟩

theorem writtenIn_of_geometrySchema {g : Geometry} (sound : es.Sound)
    (decoded : geometrySchema.ofEntries es = .ok g) : g.WrittenIn es := by
  have given {name : String} (get : Geometry → UInt32)
      (part : geometrySchema.Part name (fun v n => v = .integer n.toNat) get) :
      es.Gives name (fun v n => v = .integer n.toNat) (get .vga) (get g) :=
    part.gives geometrySchema_regular sound.distinct decoded
  constructor
  case width =>
    exact given (·.width)
      (Schema.part_of (i := 0) rfl (fun _ _ _ => word32_eq_ok.mp) (by simp [geometrySchema]))
  case height =>
    exact given (·.height)
      (Schema.part_of (i := 1) rfl (fun _ _ _ => word32_eq_ok.mp) (by simp [geometrySchema]))
  case bytesPerSample =>
    exact given (·.bytesPerSample)
      (Schema.part_of (i := 2) rfl (fun _ _ _ => word32_eq_ok.mp) (by simp [geometrySchema]))

theorem deviceSchema_regular : deviceSchema.Regular :=
  ⟨by decide, by simp [deviceSchema]⟩

section Devices

variable (tables : es.Each "geometry" fun v => v.isTable = true)
  (kind : es.Each "kind" fun v => ∃ s, v = .text s)
  (pattern : es.Each "pattern" fun v => ∃ s, v = .text s)
include tables kind pattern

theorem fitsDevice_iff (sound : es.Sound) :
    (∃ c, deviceSchema.ofEntries es = .ok c) ↔ FitsDevice es := by
  have geometry := (each_decode_iff tables).trans (fitsGeometry_iff (sound.sub "geometry"))
  have kinds := Entries.Each.congr kind fun v text =>
    exists_congr fun x => choice_variants_eq_ok (a := x) text
  have patterns := Entries.Each.congr pattern fun v text =>
    exists_congr fun p => choice_patterns_eq_ok (a := p) text
  have word64s (k : String) := Entries.Each.congr (sound.each_sound k) fun v => exists_word64
  have sizes (k : String) := Entries.Each.congr (sound.each_sound k) fun v => exists_size
  rw [deviceSchema_regular.accepts_iff sound.distinct]
  simp only [deviceSchema, List.forall_mem_cons, Field.name_of, Field.exists_set_of, geometry,
    kinds, patterns, word64s, sizes]
  constructor
  · rintro ⟨known, kind, geometry, pattern, period, buffers, capacity, -⟩
    exact ⟨known.resolve_left (by simp), kind, geometry, pattern, period, buffers, capacity⟩
  · rintro ⟨known, kind, geometry, pattern, period, buffers, capacity⟩
    exact ⟨.inr known, kind, geometry, pattern, period, buffers, capacity, by simp⟩

theorem writtenIn_of_statedIn_device {c : DeviceConfig} (stated : c.StatedIn es) :
    c.WrittenIn es where
  kind := stated.kind.imp kind fun _ => eq_text_of_spells
  geometry := Schema.within_of_isTable tables ▸ stated.geometry
  pattern := stated.pattern.imp pattern fun _ => eq_text_of_spells
  period := stated.period
  buffers := stated.buffers
  capacity := stated.capacity

end Devices

theorem statedIn_of_deviceSchema {c : DeviceConfig} (sound : es.Sound)
    (decoded : deviceSchema.ofEntries es = .ok c) : c.StatedIn es := by
  have given {α : Type} {reads : Item → α → Prop} {name : String} (get : DeviceConfig → α)
      (part : deviceSchema.Part name reads get) : es.Gives name reads (get {}) (get c) :=
    part.gives deviceSchema_regular sound.distinct decoded
  constructor
  case kind =>
    exact given (·.variant)
      (Schema.part_of (i := 0) rfl (fun _ _ _ => choice_variants_iff_spells.mp)
        (by simp [deviceSchema]))
  case geometry =>
    have gives : es.Gives "geometry" (fun v g => geometrySchema.decode v = .ok g) _ c.geometry :=
      given (·.geometry)
        (Schema.part_of (i := 1) rfl (fun _ _ _ read => read) (by simp [deviceSchema]))
    exact writtenIn_of_geometrySchema (geometrySchema_regular.sound_within sound _)
      (geometrySchema_regular.ofEntries_within gives)
  case pattern =>
    exact given (·.pattern)
      (Schema.part_of (i := 2) rfl (fun _ _ _ => choice_patterns_iff_spells.mp)
        (by simp [deviceSchema]))
  case period =>
    exact given (·.period.count)
      (Schema.part_of (i := 3) rfl (fun _ _ _ => word64_eq_ok.mp) (by simp [deviceSchema]))
  case buffers =>
    exact given (·.buffers)
      (Schema.part_of (i := 4) rfl (fun _ _ _ => size_eq_ok.mp) (by simp [deviceSchema]))
  case capacity =>
    exact given (·.capacity)
      (Schema.part_of (i := 5) rfl (fun _ _ _ => size_eq_ok.mp) (by simp [deviceSchema]))

theorem relaySchema_regular : relaySchema.Regular :=
  ⟨by decide, by simp [relaySchema]⟩

theorem fitsRelay_iff (sound : es.Sound) :
    (∃ c, relaySchema.ofEntries es = .ok c) ↔ FitsRelay es := by
  have word64s (k : String) := Entries.Each.congr (sound.each_sound k) fun v => exists_word64
  have sizes (k : String) := Entries.Each.congr (sound.each_sound k) fun v => exists_size
  rw [relaySchema_regular.accepts_iff sound.distinct]
  simp only [relaySchema, List.forall_mem_cons, Field.name_of, Field.exists_set_of, word64s, sizes,
    endpoint_eq_ok]
  constructor
  · rintro ⟨known, bind, frameBudget, pollInterval, sendBufferSize, -⟩
    refine ⟨known.resolve_left (by simp), fun v found => ?_, frameBudget, pollInterval,
      sendBufferSize⟩
    obtain ⟨e, s, text, parsed⟩ := bind v found
    exact ⟨s, e, text, parsed⟩
  · rintro ⟨known, bind, frameBudget, pollInterval, sendBufferSize⟩
    refine ⟨.inr known, fun v found => ?_, frameBudget, pollInterval, sendBufferSize, by simp⟩
    obtain ⟨s, e, text, parsed⟩ := bind v found
    exact ⟨e, s, text, parsed⟩

theorem writtenIn_of_relaySchema {c : RelayConfig} (sound : es.Sound)
    (decoded : relaySchema.ofEntries es = .ok c) : c.WrittenIn es := by
  have given {α : Type} {reads : Item → α → Prop} {name : String} (get : RelayConfig → α)
      (part : relaySchema.Part name reads get) : es.Gives name reads (get {}) (get c) :=
    part.gives relaySchema_regular sound.distinct decoded
  constructor
  case bind =>
    exact given (·.bind)
      (Schema.part_of (i := 0) rfl (fun _ _ _ => endpoint_eq_ok.mp) (by simp [relaySchema]))
  case frameBudget =>
    exact given (·.frameBudget)
      (Schema.part_of (i := 1) rfl (fun _ _ _ => word64_eq_ok.mp) (by simp [relaySchema]))
  case pollInterval =>
    exact given (·.pollInterval.count)
      (Schema.part_of (i := 2) rfl (fun _ _ _ => word64_eq_ok.mp) (by simp [relaySchema]))
  case sendBufferSize =>
    refine given (·.sendBufferSize) (Schema.part_of (i := 3) rfl ?_ (by simp [relaySchema]))
    exact fun v n _ read => ⟨n, rfl, size_eq_ok.mp read⟩

theorem schema_regular : schema.Regular :=
  ⟨by decide, by simp [schema]⟩

theorem fits_iff (sound : es.Sound) (tame : Tame es) :
    (∃ c, schema.ofEntries es = .ok c) ↔ Fits es := by
  have device := (each_decode_iff tame.device).trans
    (fitsDevice_iff tame.geometry tame.kind tame.pattern (sound.sub "device"))
  have relay := (each_decode_iff tame.relay).trans (fitsRelay_iff (sound.sub "relay"))
  rw [schema_regular.accepts_iff sound.distinct]
  simp only [schema, List.forall_mem_cons, Field.name_of, Field.exists_set_of, device, relay]
  constructor
  · rintro ⟨known, device, relay, -⟩
    exact ⟨known.resolve_left (by simp), device, relay⟩
  · rintro ⟨known, device, relay⟩
    exact ⟨.inr known, device, relay, by simp⟩

theorem statedIn_of_schema {c : Config} (sound : es.Sound) (decoded : schema.ofEntries es = .ok c) :
    c.StatedIn es := by
  have device : es.Gives "device" (fun v d => deviceSchema.decode v = .ok d) _ c.device :=
    (Schema.part_of (i := 0) rfl (fun _ _ _ read => read) (by simp [schema])
      : schema.Part _ _ (·.device)).gives schema_regular sound.distinct decoded
  have relay : es.Gives "relay" (fun v r => relaySchema.decode v = .ok r) _ c.relay :=
    (Schema.part_of (i := 1) rfl (fun _ _ _ read => read) (by simp [schema])
      : schema.Part _ _ (·.relay)).gives schema_regular sound.distinct decoded
  constructor
  · exact statedIn_of_deviceSchema (deviceSchema_regular.sound_within sound _)
      (deviceSchema_regular.ofEntries_within device)
  · exact writtenIn_of_relaySchema (relaySchema_regular.sound_within sound _)
      (relaySchema_regular.ofEntries_within relay)

theorem writtenIn_of_schema {c : Config} (sound : es.Sound) (tame : Tame es)
    (decoded : schema.ofEntries es = .ok c) : c.WrittenIn es := by
  obtain ⟨device, relay⟩ := statedIn_of_schema sound decoded
  rw [Schema.within_of_isTable tame.device] at device
  rw [Schema.within_of_isTable tame.relay] at relay
  exact ⟨writtenIn_of_statedIn_device tame.geometry tame.kind tame.pattern device, relay⟩

end Config

open Config

theorem Geometry.WrittenIn.unique {es : Entries} {g g' : Geometry} (written : g.WrittenIn es)
    (written' : g'.WrittenIn es) : g = g' := by
  have width := written.width.unique written'.width fun _ => word32_unique
  have height := written.height.unique written'.height fun _ => word32_unique
  have bytes := written.bytesPerSample.unique written'.bytesPerSample fun _ => word32_unique
  obtain ⟨_, _, _⟩ := g
  obtain ⟨_, _, _⟩ := g'
  rw [Geometry.mk.injEq]
  exact ⟨width, height, bytes⟩

theorem Geometry.WrittenIn.alike {es es' : Entries} {g : Geometry} (written : g.WrittenIn es)
    (alike : es.Alike es') : g.WrittenIn es' where
  width := written.width.alike alike fun _ => isPlain_integer
  height := written.height.alike alike fun _ => isPlain_integer
  bytesPerSample := written.bytesPerSample.alike alike fun _ => isPlain_integer

theorem DeviceConfig.WrittenIn.unique {es : Entries} {c c' : DeviceConfig}
    (written : c.WrittenIn es) (written' : c'.WrittenIn es) : c = c' := by
  have kind := written.kind.unique written'.kind fun v read read' =>
    Variant.spelling_injective (Item.text.inj (read.symm.trans read'))
  have geometry := written.geometry.unique written'.geometry
  have pattern := written.pattern.unique written'.pattern fun v read read' =>
    Pattern.spelling_injective (Item.text.inj (read.symm.trans read'))
  have period := congrArg Millis.mk (written.period.unique written'.period fun _ => word64_unique)
  have buffers := written.buffers.unique written'.buffers fun _ => word64_unique
  have capacity := written.capacity.unique written'.capacity fun _ => word64_unique
  obtain ⟨_, _, _, _, _, _⟩ := c
  obtain ⟨_, _, _, _, _, _⟩ := c'
  rw [DeviceConfig.mk.injEq]
  exact ⟨kind, geometry, pattern, period, buffers, capacity⟩

theorem DeviceConfig.WrittenIn.alike {es es' : Entries} {c : DeviceConfig}
    (written : c.WrittenIn es) (sound : es.Sound) (alike : es.Alike es') : c.WrittenIn es' where
  kind := written.kind.alike alike fun _ => isPlain_text
  geometry := written.geometry.alike (alike.sub (sound.sub _).distinct)
  pattern := written.pattern.alike alike fun _ => isPlain_text
  period := written.period.alike alike fun _ => isPlain_integer
  buffers := written.buffers.alike alike fun _ => isPlain_integer
  capacity := written.capacity.alike alike fun _ => isPlain_integer

theorem RelayConfig.WrittenIn.unique {es : Entries} {c c' : RelayConfig}
    (written : c.WrittenIn es) (written' : c'.WrittenIn es) : c = c' := by
  have bind : c.bind = c'.bind := written.bind.unique written'.bind fun v => by
    rintro ⟨s, rfl, parsed⟩ ⟨s', same, parsed'⟩
    rw [← Item.text.inj same, parsed] at parsed'
    exact Option.some.inj parsed'
  have frameBudget := written.frameBudget.unique written'.frameBudget fun _ => word64_unique
  have pollInterval :=
    congrArg Millis.mk (written.pollInterval.unique written'.pollInterval fun _ => word64_unique)
  have sendBufferSize : c.sendBufferSize = c'.sendBufferSize :=
    written.sendBufferSize.unique written'.sendBufferSize fun v => by
      rintro ⟨m, size, read⟩ ⟨n, size', read'⟩
      rw [size, size', word64_unique read read']
  obtain ⟨_, _, _, _⟩ := c
  obtain ⟨_, _, _, _⟩ := c'
  rw [RelayConfig.mk.injEq]
  exact ⟨bind, frameBudget, pollInterval, sendBufferSize⟩

theorem RelayConfig.WrittenIn.alike {es es' : Entries} {c : RelayConfig}
    (written : c.WrittenIn es) (alike : es.Alike es') : c.WrittenIn es' where
  bind := written.bind.alike alike fun _ ⟨_, read, _⟩ => isPlain_text read
  frameBudget := written.frameBudget.alike alike fun _ => isPlain_integer
  pollInterval := written.pollInterval.alike alike fun _ => isPlain_integer
  sendBufferSize := written.sendBufferSize.alike alike fun _ ⟨_, _, read⟩ => isPlain_integer read

namespace Config

variable {es es' : Entries} {s : String}

theorem WrittenIn.unique {c c' : Config} (written : c.WrittenIn es) (written' : c'.WrittenIn es) :
    c = c' := by
  have device := written.device.unique written'.device
  have relay := written.relay.unique written'.relay
  obtain ⟨_, _⟩ := c
  obtain ⟨_, _⟩ := c'
  rw [Config.mk.injEq]
  exact ⟨device, relay⟩

theorem WrittenIn.alike {c : Config} (written : c.WrittenIn es) (sound : es.Sound)
    (alike : es.Alike es') : c.WrittenIn es' where
  device := written.device.alike (sound.sub _) (alike.sub (sound.sub _).distinct)
  relay := written.relay.alike (alike.sub (sound.sub _).distinct)

theorem FitsGeometry.alike (fits : FitsGeometry es) (alike : es.Alike es') : FitsGeometry es' where
  width := fits.width.alike alike fun _ ⟨_, read, _⟩ => isPlain_integer read
  height := fits.height.alike alike fun _ ⟨_, read, _⟩ => isPlain_integer read
  bytesPerSample := fits.bytesPerSample.alike alike fun _ ⟨_, read, _⟩ => isPlain_integer read

theorem FitsDevice.alike (fits : FitsDevice es) (sound : es.Sound) (alike : es.Alike es') :
    FitsDevice es' where
  known k member := fits.known k ((alike.keys k).mpr member)
  kind := fits.kind.alike alike fun _ ⟨_, read⟩ => isPlain_text read
  geometry := fits.geometry.alike (alike.sub (sound.sub _).distinct)
  pattern := fits.pattern.alike alike fun _ ⟨_, read⟩ => isPlain_text read
  period := fits.period.alike alike fun _ ⟨_, read, _⟩ => isPlain_integer read
  buffers := fits.buffers.alike alike fun _ ⟨_, read, _⟩ => isPlain_integer read
  capacity := fits.capacity.alike alike fun _ ⟨_, read, _⟩ => isPlain_integer read

theorem FitsRelay.alike (fits : FitsRelay es) (alike : es.Alike es') : FitsRelay es' where
  known k member := fits.known k ((alike.keys k).mpr member)
  bind := fits.bind.alike alike fun _ ⟨_, _, read, _⟩ => isPlain_text read
  frameBudget := fits.frameBudget.alike alike fun _ ⟨_, read, _⟩ => isPlain_integer read
  pollInterval := fits.pollInterval.alike alike fun _ ⟨_, read, _⟩ => isPlain_integer read
  sendBufferSize := fits.sendBufferSize.alike alike fun _ ⟨_, read, _⟩ => isPlain_integer read

theorem Fits.alike (fits : Fits es) (sound : es.Sound) (alike : es.Alike es') : Fits es' where
  known k member := fits.known k ((alike.keys k).mpr member)
  device := fits.device.alike (sound.sub _) (alike.sub (sound.sub _).distinct)
  relay := fits.relay.alike (alike.sub (sound.sub _).distinct)

theorem Tame.alike (tame : Tame es) (sound : es.Sound) (alike : es.Alike es') : Tame es' := by
  have device := alike.sub (k := "device") (sound.sub _).distinct
  constructor
  case device => exact tame.device.isTable_alike alike
  case relay => exact tame.relay.isTable_alike alike
  case geometry => exact tame.geometry.isTable_alike device
  case kind => exact tame.kind.alike device fun _ ⟨_, read⟩ => isPlain_text read
  case pattern => exact tame.pattern.alike device fun _ ⟨_, read⟩ => isPlain_text read

/-- Reading came as far as to check the configuration. -/
def PastParsing (result : Except LoadError Config) : Prop :=
  (∃ c, result = .ok c) ∨ ∃ cause, result = .error (.invalid cause)

theorem checked_of_ok {c : Config} (valid : c.validate = .ok ()) : checked c = .ok c := by
  rw [checked, valid]

theorem checked_of_error {c : Config} {cause : Invalid} (invalid : c.validate = .error cause) :
    checked c = .error (.invalid cause) := by
  rw [checked, invalid]

theorem pastParsing_checked (c : Config) : PastParsing (checked c) := by
  cases validated : c.validate with
  | ok => exact .inl ⟨c, checked_of_ok validated⟩
  | error cause => exact .inr ⟨cause, checked_of_error validated⟩

section Reader

-- a reader of documents in which no key stands twice and no number is out of range
variable {parse? : String → Option Entries} (reads : ∀ s es, parse? s = some es → es.Sound)

include reads

theorem ofDocumentBy_of_fits (parsed : parse? s = some es) (tame : Tame es) (fits : Fits es) :
    ∃ c : Config, c.WrittenIn es ∧ ofDocumentBy parse? s = checked c := by
  have sound := reads s es parsed
  obtain ⟨c, decoded⟩ := (fits_iff sound tame).mpr fits
  refine ⟨c, writtenIn_of_schema sound tame decoded, ?_⟩
  simp only [ofDocumentBy, parsed, ofEntries, decoded]

theorem pastParsing_iff_fits (parsed : parse? s = some es) (tame : Tame es) :
    PastParsing (ofDocumentBy parse? s) ↔ Fits es := by
  constructor
  · intro past
    refine (fits_iff (reads s es parsed) tame).mp ?_
    simp only [ofDocumentBy, parsed, ofEntries] at past
    cases decoded : schema.ofEntries es with
    | ok c => exact ⟨c, rfl⟩
    | error cause => simp [decoded, PastParsing] at past
  · intro fits
    obtain ⟨c, -, read⟩ := ofDocumentBy_of_fits reads parsed tame fits
    rw [read]
    exact pastParsing_checked c

theorem ofDocumentBy_exact (parsed : parse? s = some es) (tame : Tame es) :
    (PastParsing (ofDocumentBy parse? s) ↔ Fits es) ∧
      (Fits es → ∃ c : Config, c.WrittenIn es ∧ (∀ c' : Config, c'.WrittenIn es → c' = c) ∧
        (c.validate = .ok () → ofDocumentBy parse? s = .ok c) ∧
        (∀ cause, c.validate = .error cause → ofDocumentBy parse? s = .error (.invalid cause)) ∧
        ∀ s' es', parse? s' = some es' → es.Alike es' →
          ofDocumentBy parse? s' = ofDocumentBy parse? s) := by
  refine ⟨pastParsing_iff_fits reads parsed tame, fun fits => ?_⟩
  have sound := reads s es parsed
  obtain ⟨c, written, read⟩ := ofDocumentBy_of_fits reads parsed tame fits
  refine ⟨c, written, fun c' written' => written'.unique written, ?_, ?_, ?_⟩
  · intro valid
    rw [read, checked_of_ok valid]
  · intro cause invalid
    rw [read, checked_of_error invalid]
  · intro s' es' parsed' alike
    obtain ⟨c', written', read'⟩ :=
      ofDocumentBy_of_fits reads parsed' (tame.alike sound alike) (fits.alike sound alike)
    rw [read', read, written'.unique (written.alike sound alike)]

end Reader

/--
A document in which structures are tables and choices are texts is decoded if and only if each of
its keys is known and has a value of its kind. The configuration has what is written, and for the
rest its defaults; no other does, and the order in which it is written makes no difference. It is
what reading the document gives unless its validation fails.
-/
theorem ofDocument_exact (parsed : Toml.parse? s = some es) (tame : Tame es) :
    (PastParsing (ofDocument s) ↔ Fits es) ∧
      (Fits es → ∃ c : Config, c.WrittenIn es ∧ (∀ c' : Config, c'.WrittenIn es → c' = c) ∧
        (c.validate = .ok () → ofDocument s = .ok c) ∧
        (∀ cause, c.validate = .error cause → ofDocument s = .error (.invalid cause)) ∧
        ∀ s' es', Toml.parse? s' = some es' → es.Alike es' → ofDocument s' = ofDocument s) :=
  ofDocumentBy_exact (fun _ _ => Toml.sound_of_parse) parsed tame

-- the same in two ways; the depth is no part of a geometry
def oneWay : String :=
  "[device]\nperiod_ms = 50\ngeometry = \x7b width = 64, depth = true \x7d\n" ++
    "[relay]\nframe_budget = 2\n"

def otherWay : String :=
  "relay.frame_budget = 2\n[device]\ngeometry.depth = true\ngeometry.width = 64\nperiod_ms = 50\n"

def oneWayEntries : Entries :=
  [("device", .table false .written
      [("period_ms", .integer 50),
        ("geometry", .table true .written [("width", .integer 64), ("depth", .boolean true)])]),
    ("relay", .table false .written [("frame_budget", .integer 2)])]

def otherWayEntries : Entries :=
  [("relay", .table false .dotted [("frame_budget", .integer 2)]),
    ("device", .table false .written
      [("geometry", .table false .dotted [("depth", .boolean true), ("width", .integer 64)]),
        ("period_ms", .integer 50)])]

def bothWays : Config :=
  { device := { geometry := ⟨64, 480, 2⟩, period := ⟨50⟩ }, relay := { frameBudget := 2 } }

theorem alike_otherWayEntries : oneWayEntries.Alike otherWayEntries := by
  have geometry : Entries.Alike [("width", .integer 64), ("depth", .boolean true)]
      [("depth", .boolean true), ("width", .integer 64)] := .of_perm (.swap ..) (by decide)
  have device : Entries.Alike
      [("period_ms", .integer 50),
        ("geometry", .table true .written [("width", .integer 64), ("depth", .boolean true)])]
      [("geometry", .table false .dotted [("depth", .boolean true), ("width", .integer 64)]),
        ("period_ms", .integer 50)] := by
    refine .of_get? (by decide) (.swap ..) ?_
    simp [Entries.get?, Item.Alike.same, Item.Alike.of_entries geometry]
  have relay : Entries.Alike [("frame_budget", .integer 2)] [("frame_budget", .integer 2)] :=
    .refl (by decide)
  refine .of_get? (by decide) (.swap ..) ?_
  simp [oneWayEntries, otherWayEntries, Entries.get?, Item.Alike.of_entries device,
    Item.Alike.of_entries relay]

theorem ofDocument_exact_otherWay :
    Toml.parse? oneWay = some oneWayEntries ∧ Toml.parse? otherWay = some otherWayEntries ∧
      oneWayEntries.Alike otherWayEntries ∧ Tame oneWayEntries ∧ Fits oneWayEntries ∧
      PastParsing (ofDocument oneWay) ∧ ofDocument oneWay = .ok bothWays ∧
      ofDocument otherWay = .ok bothWays := by
  have parsed : Toml.parse? oneWay = some oneWayEntries := by cbv
  have parsed' : Toml.parse? otherWay = some otherWayEntries := by cbv
  have tame : Tame oneWayEntries := by
    constructor <;> simp [oneWayEntries, Entries.Each, Entries.sub, Entries.get?, Item.isTable]
  have fits : Fits oneWayEntries := by
    refine ⟨by decide, ⟨by decide, ?_, ⟨?_, ?_, ?_⟩, ?_, ?_, ?_, ?_⟩, ⟨by decide, ?_, ?_, ?_, ?_⟩⟩
    all_goals
      simp [oneWayEntries, Entries.Each, Entries.sub, Entries.get?, IsWord, IsWhole]
  have written : bothWays.WrittenIn oneWayEntries := by
    refine ⟨⟨?_, ⟨?_, ?_, ?_⟩, ?_, ?_, ?_, ?_⟩, ⟨?_, ?_, ?_, ?_⟩⟩
    all_goals
      constructor <;>
        simp [bothWays, oneWayEntries, Entries.Each, Entries.sub, Entries.get?, Geometry.vga]
  obtain ⟨past, exact⟩ := ofDocument_exact parsed tame
  obtain ⟨c, -, unique, valid, -, order⟩ := exact fits
  obtain rfl := unique bothWays written
  have read := valid rfl
  exact ⟨parsed, parsed', alike_otherWayEntries, tame, fits, past.mpr fits, read,
    (order _ _ parsed' alike_otherWayEntries).trans read⟩

end Config

end Framecast
