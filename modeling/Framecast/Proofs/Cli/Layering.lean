import Framecast.Proofs.Cli.Port
import Framecast.Proofs.Config.Decoding
import Framecast.Proofs.Config.Opening

set_option autoImplicit false

namespace Framecast

open Toml (Entries Item)

namespace Cli

variable {host : Host} {o : Options} {base c : Config} {es : Entries}

inductive Tells (host : Host) : Option String → Entries → Prop where
  | nothing : Tells host none []
  | file {path s : String} {bytes : Bytes} {es : Entries} (found : host.read path = .ok bytes)
    (text : String.fromUTF8? ⟨bytes.toArray⟩ = some s) (parsed : Toml.parse? s = some es) :
    Tells host (some path) es

/-- The file by itself is a valid configuration. -/
structure Grounds (host : Host) (file : Option String) (es : Entries) (base : Config) : Prop where
  told : Tells host file es
  decoded : Config.schema.ofEntries es = .ok base
  valid : base.validate = .ok ()

theorem checked_eq_ok : Config.checked base = .ok c ↔ c = base ∧ base.validate = .ok () := by
  cases validated : base.validate with
  | ok => simp [Config.checked_of_ok validated, eq_comm]
  | error cause => simp [Config.checked_of_error validated]

theorem ofEntries_eq_ok :
    Config.ofEntries es = .ok base ↔
      Config.schema.ofEntries es = .ok base ∧ base.validate = .ok () := by
  rw [Config.ofEntries]
  cases Config.schema.ofEntries es with
  | error cause => simp
  | ok c =>
    simp only [checked_eq_ok, Except.ok.injEq]
    constructor
    · rintro ⟨rfl, valid⟩
      exact ⟨rfl, valid⟩
    · rintro ⟨rfl, valid⟩
      exact ⟨rfl, valid⟩

theorem load_eq_ok {path : String} {contents : Except Config.FileError Bytes} :
    Config.load path contents = .ok base ↔
      ∃ bytes s es, contents = .ok bytes ∧ String.fromUTF8? ⟨bytes.toArray⟩ = some s ∧
        Toml.parse? s = some es ∧ Config.ofEntries es = .ok base := by
  cases contents with
  | error e => simp [Config.load]
  | ok bytes =>
    constructor
    · intro loaded
      simp only [Config.load] at loaded
      split at loaded
      next => simp at loaded
      next s text =>
        rw [Config.ofDocument, Config.ofDocumentBy] at loaded
        split at loaded
        next => simp at loaded
        next es parsed => exact ⟨bytes, s, es, rfl, text, parsed, loaded⟩
    · rintro ⟨_, s, es, same, text, parsed, decoded⟩
      obtain rfl := Except.ok.inj same
      simp only [Config.load, text, Config.ofDocument, Config.ofDocumentBy, parsed, decoded]

theorem baseConfig_eq_ok :
    baseConfig host o = .ok base ↔ ∃ es, Grounds host o.config es base := by
  rw [baseConfig]
  cases o.config with
  | none =>
    constructor
    · intro same
      obtain rfl := Except.ok.inj same
      exact ⟨[], .nothing, rfl, rfl⟩
    · rintro ⟨es, told, decoded, -⟩
      cases told
      exact congrArg Except.ok (Except.ok.inj decoded)
  | some path =>
    simp only [load_eq_ok, ofEntries_eq_ok]
    constructor
    · rintro ⟨bytes, s, es, found, text, parsed, decoded, valid⟩
      exact ⟨es, .file found text parsed, decoded, valid⟩
    · rintro ⟨es, told, decoded, valid⟩
      cases told with
      | file found text parsed => exact ⟨_, _, es, found, text, parsed, decoded, valid⟩

/-- What the flags make of the configuration `base`, field by field. -/
structure Overlaid (o : Options) (base c : Config) : Prop where
  kind : c.device.variant = if o.echo then .simpleBuffer else base.device.variant
  width : c.device.geometry.width = o.width.getD base.device.geometry.width
  height : c.device.geometry.height = o.height.getD base.device.geometry.height
  bytesPerSample :
    c.device.geometry.bytesPerSample = o.bytesPerSample.getD base.device.geometry.bytesPerSample
  pattern : c.device.pattern = o.pattern.getD base.device.pattern
  period : c.device.period = o.period.getD base.device.period
  -- no flag bears on these two
  buffers : c.device.buffers = base.device.buffers
  capacity : c.device.capacity = base.device.capacity
  bind : o.port = none → c.relay.bind = o.bind.getD base.relay.bind
  -- of the address itself only the scope is lost
  port : ∀ p, o.port = some p → c.relay.bind.port = p ∧
    c.relay.bind.host = (o.bind.getD base.relay.bind).host ∧ c.relay.bind.scope = 0
  frameBudget : c.relay.frameBudget = o.frames.getD base.relay.frameBudget
  -- nor on these
  pollInterval : c.relay.pollInterval = base.relay.pollInterval
  sendBufferSize : c.relay.sendBufferSize = base.relay.sendBufferSize

theorem overlaid_apply (o : Options) (base : Config) : Overlaid o base (o.apply base) where
  kind := rfl
  width := rfl
  height := rfl
  bytesPerSample := rfl
  pattern := rfl
  period := rfl
  buffers := rfl
  capacity := rfl
  bind unported := Options.bind_apply_of_none unported base
  port p ported := by
    rw [Options.bind_apply_of_some ported base]
    exact ⟨Endpoint.port_withPort _ p, Endpoint.host_withPort _ p, Endpoint.scope_withPort _ p⟩
  frameBudget := rfl
  pollInterval := rfl
  sendBufferSize := rfl

theorem Overlaid.bind_unique {c' : Config} (overlaid : Overlaid o base c)
    (overlaid' : Overlaid o base c') : c.relay.bind = c'.relay.bind := by
  cases port : o.port with
  | none => rw [overlaid.bind port, overlaid'.bind port]
  | some p =>
    obtain ⟨own, host, scope⟩ := overlaid.port p port
    obtain ⟨own', host', scope'⟩ := overlaid'.port p port
    exact Endpoint.eq_iff.mpr ⟨⟨host.trans host'.symm, scope.trans scope'.symm⟩,
      own.trans own'.symm⟩

theorem overlaid_iff : Overlaid o base c ↔ c = o.apply base := by
  constructor
  · intro overlaid
    have flags := overlaid_apply o base
    have bind := overlaid.bind_unique flags
    obtain ⟨⟨_, ⟨_, _, _⟩, _, _, _, _⟩, ⟨_, _, _, _⟩⟩ := c
    simp only [Options.apply, Options.applyDevice, Options.applyGeometry, Options.applyRelay,
      Config.mk.injEq, DeviceConfig.mk.injEq, Geometry.mk.injEq, RelayConfig.mk.injEq]
    exact ⟨⟨overlaid.kind, ⟨overlaid.width, overlaid.height, overlaid.bytesPerSample⟩,
      overlaid.pattern, overlaid.period, overlaid.buffers, overlaid.capacity⟩,
      bind, overlaid.frameBudget, overlaid.pollInterval, overlaid.sendBufferSize⟩
  · rintro rfl
    exact overlaid_apply o base

/-- The flag's value, or else what is written under the key, or else the default. -/
structure Layered {α : Type} (flag : Option α) (es : Entries) (k : String)
    (reads : Item → α → Prop) (default a : α) : Prop where
  above : ∀ b, flag = some b → a = b
  below : flag = none → es.Gives k reads default a

theorem layered_getD {α : Type} {k : String} {reads : Item → α → Prop} {default a : α}
    (gives : es.Gives k reads default a) (flag : Option α) :
    Layered flag es k reads default (flag.getD a) := by
  constructor
  · rintro b rfl
    rfl
  · rintro rfl
    exact gives

structure GeometryLayers (o : Options) (es : Entries) (g : Geometry) : Prop where
  width : Layered o.width es "width" (fun v n => v = .integer n.toNat) Geometry.vga.width g.width
  height : Layered o.height es "height" (fun v n => v = .integer n.toNat)
    Geometry.vga.height g.height
  bytesPerSample : Layered o.bytesPerSample es "bytes_per_sample" (fun v n => v = .integer n.toNat)
    Geometry.vga.bytesPerSample g.bytesPerSample

structure DeviceLayers (o : Options) (es : Entries) (c : DeviceConfig) : Prop where
  kind : Layered (if o.echo then some .simpleBuffer else none) es "kind"
    (fun v x => Config.Spells v x.spelling) .frameProducing c.variant
  geometry : GeometryLayers o (Config.geometrySchema.within es "geometry") c.geometry
  pattern : Layered o.pattern es "pattern" (fun v p => Config.Spells v p.spelling)
    .gradient c.pattern
  period : Layered (o.period.map Millis.count) es "period_ms" (fun v n => v = .integer n.toNat)
    Device.Kind.defaultPeriod.count c.period.count
  buffers : es.Gives "buffers" (fun v n => v = .integer n.toNat) defaultBuffers c.buffers
  capacity : es.Gives "capacity" (fun v n => v = .integer n.toNat) defaultCapacity c.capacity

structure RelayLayers (o : Options) (es : Entries) (c : RelayConfig) : Prop where
  -- the flag for the port acts on what the layers make of the address
  bind : ∃ e, Layered o.bind es "bind"
      (fun v e => ∃ s, v = .text s ∧ Endpoint.parse? s = some e) Endpoint.default e ∧
    (o.port = none → c.bind = e) ∧
    ∀ p, o.port = some p → c.bind.port = p ∧ c.bind.host = e.host ∧ c.bind.scope = 0
  frameBudget : Layered o.frames es "frame_budget" (fun v n => v = .integer n.toNat)
    defaultFrameBudget c.frameBudget
  pollInterval : es.Gives "poll_interval_ms" (fun v n => v = .integer n.toNat)
    defaultPollInterval.count c.pollInterval.count
  sendBufferSize : es.Gives "send_buffer_size" (fun v n => ∃ m, n = some m ∧ v = .integer m.toNat)
    none c.sendBufferSize

structure Layers (o : Options) (es : Entries) (c : Config) : Prop where
  device : DeviceLayers o (Config.deviceSchema.within es "device") c.device
  relay : RelayLayers o (Config.relaySchema.within es "relay") c.relay

theorem Overlaid.geometryLayers (overlaid : Overlaid o base c)
    (written : base.device.geometry.WrittenIn es) : GeometryLayers o es c.device.geometry where
  width := overlaid.width ▸ layered_getD written.width o.width
  height := overlaid.height ▸ layered_getD written.height o.height
  bytesPerSample := overlaid.bytesPerSample ▸ layered_getD written.bytesPerSample o.bytesPerSample

theorem Overlaid.deviceLayers (overlaid : Overlaid o base c) (stated : base.device.StatedIn es) :
    DeviceLayers o es c.device := by
  constructor
  case kind =>
    have layered := layered_getD stated.kind (if o.echo then some .simpleBuffer else none)
    rw [overlaid.kind]
    cases echo : o.echo <;> simpa [echo] using layered
  case geometry => exact overlaid.geometryLayers stated.geometry
  case pattern => exact overlaid.pattern ▸ layered_getD stated.pattern o.pattern
  case period =>
    have layered := layered_getD stated.period (o.period.map Millis.count)
    rw [overlaid.period]
    cases flag : o.period <;> simpa [flag] using layered
  case buffers => exact overlaid.buffers ▸ stated.buffers
  case capacity => exact overlaid.capacity ▸ stated.capacity

theorem Overlaid.relayLayers (overlaid : Overlaid o base c) (written : base.relay.WrittenIn es) :
    RelayLayers o es c.relay where
  bind := ⟨_, layered_getD written.bind o.bind, overlaid.bind, overlaid.port⟩
  frameBudget := overlaid.frameBudget ▸ layered_getD written.frameBudget o.frames
  pollInterval := overlaid.pollInterval ▸ written.pollInterval
  sendBufferSize := overlaid.sendBufferSize ▸ written.sendBufferSize

theorem Overlaid.layers (overlaid : Overlaid o base c) (stated : base.StatedIn es) :
    Layers o es c :=
  ⟨overlaid.deviceLayers stated.device, overlaid.relayLayers stated.relay⟩

theorem Tells.unique {file : Option String} {es es' : Entries} (told : Tells host file es)
    (told' : Tells host file es') : es = es' := by
  cases told with
  | nothing =>
    cases told'
    rfl
  | file found text parsed =>
    cases told' with
    | file found' text' parsed' =>
      obtain rfl := Except.ok.inj (found.symm.trans found')
      obtain rfl := Option.some.inj (text.symm.trans text')
      exact Option.some.inj (parsed.symm.trans parsed')

theorem Tells.sound {file : Option String} (told : Tells host file es) : es.Sound := by
  cases told with
  | nothing => exact Toml.Entries.Sound.nil
  | file found text parsed => exact Toml.sound_of_parse parsed

theorem Options.apply_apply (o : Options) (c : Config) : o.apply (o.apply c) = o.apply c := by
  have device : o.applyDevice (o.applyDevice c.device) = o.applyDevice c.device := by
    simp only [applyDevice, applyGeometry_applyGeometry, DeviceConfig.mk.injEq]
    cases o.echo <;> cases o.pattern <;> cases o.period <;> simp
  have relay : o.applyRelay (o.applyRelay c.relay) = o.applyRelay c.relay := by
    simp only [applyRelay, applyBind_applyBind, RelayConfig.mk.injEq]
    cases o.frames <;> simp
  simp only [apply, device, relay]

theorem effectiveConfig_eq_ok :
    effectiveConfig host o = .ok c ↔
      ∃ es base, Grounds host o.config es base ∧ Overlaid o base c ∧ c.validate = .ok () := by
  rw [effectiveConfig]
  constructor
  · intro effective
    cases read : baseConfig host o with
    | error e => simp [read] at effective
    | ok base =>
      obtain ⟨es, grounds⟩ := baseConfig_eq_ok.mp read
      simp only [read, checked_eq_ok] at effective
      obtain ⟨rfl, valid⟩ := effective
      exact ⟨es, base, grounds, overlaid_apply o base, valid⟩
  · rintro ⟨es, base, grounds, overlaid, valid⟩
    obtain rfl := overlaid_iff.mp overlaid
    rw [baseConfig_eq_ok.mpr ⟨es, grounds⟩]
    exact checked_eq_ok.mpr ⟨rfl, valid⟩

theorem effectiveConfig_of_groundless (groundless : ¬∃ es base, Grounds host o.config es base) :
    ∃ e, ∀ o' : Options, o'.config = o.config → effectiveConfig host o' = .error e := by
  cases read : baseConfig host o with
  | ok base =>
    obtain ⟨es, grounds⟩ := baseConfig_eq_ok.mp read
    exact absurd ⟨es, base, grounds⟩ groundless
  | error e =>
    refine ⟨e, fun o' same => ?_⟩
    have read' : baseConfig host o' = .error e := by
      rw [← read, baseConfig, baseConfig, same]
    rw [effectiveConfig, read']

theorem layers_of_effective (effective : effectiveConfig host o = .ok c)
    (told : Tells host o.config es) : Layers o es c := by
  obtain ⟨es', base, grounds, overlaid, -⟩ := effectiveConfig_eq_ok.mp effective
  obtain rfl := told.unique grounds.told
  exact overlaid.layers (Config.statedIn_of_schema told.sound grounds.decoded)

theorem fit_of_effective (effective : effectiveConfig host o = .ok c) :
    Device.unfit? c.device.kind c.device.buffers = none := by
  obtain ⟨es, base, -, -, valid⟩ := effectiveConfig_eq_ok.mp effective
  exact Config.fit_of_valid valid

theorem run_of_effective {args : List String} (parsed : parse args = .run o)
    (effective : effectiveConfig host o = .ok c) : run host args = start host c := by
  simp only [run, parsed, effective]

theorem run_of_error {args : List String} {e : Config.LoadError} (parsed : parse args = .run o)
    (refused : effectiveConfig host o = .error e) : run host args = .misconfigured e := by
  simp only [run, parsed, refused]

theorem start_ne_misconfigured (e : Config.LoadError) : start host c ≠ .misconfigured e := by
  rw [start]
  split
  next => simp
  next => split <;> simp

theorem start_ne_unfit (fit : Device.unfit? c.device.kind c.device.buffers = none)
    (c' : Config) (cause : Device.Unfit) : start host c ≠ .deviceFailed c' (.unfit cause) := by
  rw [start]
  rcases Device.openWith_of_fit String host.memory fit with ⟨d, opened⟩ | exhausted
  next =>
    rw [opened]
    dsimp only
    split <;> simp
  next => simp [exhausted]

/--
There is a configuration in force if and only if the file is valid by itself and what the flags make
of it is valid too; a file that is not valid by itself is refused for the same reason whatever the
flags. Each field has the value of its flag, or else that of the file, or else the default; the
fields without a flag keep what they had. The port of the address is the one that is given, and its
IP address is kept. Flags given twice do what they do once. No device finds the configuration in
force unfit, and the program stops over its configuration only if there is none in force.
-/
theorem effectiveConfig_layered (ω : Type) (host : Host) (o : Options) :
    (∀ c, effectiveConfig host o = .ok c ↔
      ∃ es base, Grounds host o.config es base ∧ Overlaid o base c ∧ c.validate = .ok ()) ∧
    ((¬∃ es base, Grounds host o.config es base) →
      ∃ e, ∀ o' : Options, o'.config = o.config → effectiveConfig host o' = .error e) ∧
    (∀ c es, effectiveConfig host o = .ok c → Tells host o.config es → Layers o es c) ∧
    (∀ c, o.apply (o.apply c) = o.apply c) ∧
    (∀ c, effectiveConfig host o = .ok c → ∀ memory thread cause,
      (Device.launch memory thread c.device.kind c.device.buffers :
        Except Device.LaunchError (Device ω)) ≠ .error (.device (.unfit cause))) ∧
    ∀ args, parse args = .run o →
      (∀ e, run host args = .misconfigured e ↔ effectiveConfig host o = .error e) ∧
        ∀ c cause, run host args ≠ .deviceFailed c (.unfit cause) := by
  refine ⟨fun c => effectiveConfig_eq_ok, effectiveConfig_of_groundless,
    fun c es => layers_of_effective, o.apply_apply, ?_, ?_⟩
  · intro c effective memory thread cause failed
    rw [Device.launch_of_unfit, fit_of_effective effective] at failed
    simp at failed
  · intro args parsed
    cases effective : effectiveConfig host o with
    | error e => simp [run_of_error parsed effective]
    | ok c =>
      rw [run_of_effective parsed effective]
      refine ⟨fun e => ?_, start_ne_unfit (fit_of_effective effective)⟩
      simp [start_ne_misconfigured]

theorem fromUTF8?_toByteArray (s : String) :
    String.fromUTF8? ⟨s.toByteArray.data.toList.toArray⟩ = some s := by
  rw [Array.toArray_toList, String.fromUTF8?, dif_pos s.isValidUTF8]
  rfl

def fileOf (s : String) : Bytes := s.toByteArray.data.toList

-- the geometry is a list, so its depth is the default
def narrowText : String :=
  "[device]\nperiod_ms = 50\ngeometry = [64, 48]\n[relay]\nbind = \"[fe80::1%3]:8080\"\n"

def narrowEntries : Entries :=
  [("device", .table false .written
      [("period_ms", .integer 50), ("geometry", .array [.integer 64, .integer 48])]),
    ("relay", .table false .written [("bind", .text "[fe80::1%3]:8080")])]

def narrowConfig : Config :=
  { device := { geometry := ⟨64, 48, 2⟩, period := ⟨50⟩ }
    relay := { bind := .linkLocal } }

-- a period of nothing is invalid, even under flags that have no use for it
def stillText : String := "[device]\nperiod_ms = 0\n"

def twoFiles : Host :=
  (Host.isolated.withFile "still" (fileOf stillText)).withFile "narrow" (fileOf narrowText)

def overriding : Options :=
  { config := some "narrow", port := some 9100, width := some 32, echo := true }

def overridden : Config :=
  { device := { variant := .simpleBuffer, geometry := ⟨32, 48, 2⟩, period := ⟨50⟩ }
    relay := { bind := Endpoint.linkLocal.withPort 9100 } }

theorem still_groundless : ¬∃ es base, Grounds twoFiles (some "still") es base := by
  rintro ⟨es, base, told, decoded, valid⟩
  have parsed : Toml.parse? stillText =
      some [("device", .table false .written [("period_ms", .integer 0)])] := by cbv
  have told' : Tells twoFiles (some "still") _ :=
    .file rfl (fromUTF8?_toByteArray stillText) parsed
  obtain rfl := told.unique told'
  obtain rfl := Except.ok.inj (decoded.symm.trans
    (by cbv : _ = Except.ok { device := { period := ⟨0⟩ } }))
  cases valid

theorem effectiveConfig_layered_overriding :
    Tells twoFiles overriding.config narrowEntries ∧
      effectiveConfig twoFiles overriding = .ok overridden ∧
      Layers overriding narrowEntries overridden ∧ overriding.apply overridden = overridden ∧
      (∀ memory thread cause,
        (Device.launch memory thread overridden.device.kind overridden.device.buffers :
          Except Device.LaunchError (Device Unit)) ≠ .error (.device (.unfit cause))) ∧
      (∀ c cause, run twoFiles ["--config", "narrow", "--port=9100", "--width", "32", "--echo"] ≠
        .deviceFailed c (.unfit cause)) ∧
      ∃ e, ∀ period echo,
        effectiveConfig twoFiles { config := some "still", period, echo } = .error e := by
  have parsed : Toml.parse? narrowText = some narrowEntries := by cbv
  have told : Tells twoFiles overriding.config narrowEntries :=
    .file rfl (fromUTF8?_toByteArray narrowText) parsed
  have grounds : Grounds twoFiles overriding.config narrowEntries narrowConfig :=
    ⟨told, by cbv, by cbv⟩
  obtain ⟨exact, -, layers, twice, fit, program⟩ :=
    effectiveConfig_layered Unit twoFiles overriding
  have effective : effectiveConfig twoFiles overriding = .ok overridden :=
    (exact overridden).mpr ⟨narrowEntries, narrowConfig, grounds, overlaid_iff.mpr rfl, rfl⟩
  have line : parse ["--config", "narrow", "--port=9100", "--width", "32", "--echo"] =
    .run overriding := by cbv
  obtain ⟨-, refused, -⟩ := effectiveConfig_layered Unit twoFiles { config := some "still" }
  obtain ⟨e, refused⟩ := refused still_groundless
  exact ⟨told, effective, layers _ _ effective told, twice overridden, fit _ effective,
    (program _ line).2, e, fun period echo => refused _ rfl⟩

end Cli

end Framecast
