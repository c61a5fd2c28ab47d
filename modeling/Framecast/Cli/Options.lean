import Framecast.Config.Basic

set_option autoImplicit false

namespace Framecast.Cli

structure Options where
  -- the configuration file
  config : Option String := none
  bind : Option Endpoint := none
  -- replaces the port of the address, however that was given
  port : Option UInt16 := none
  frames : Option UInt64 := none
  period : Option Millis := none
  pattern : Option Pattern := none
  width : Option UInt32 := none
  height : Option UInt32 := none
  bytesPerSample : Option UInt32 := none
  -- whether lines that are typed are sent instead of pictures
  echo : Bool := false
  deriving DecidableEq, Repr

namespace Options

def applyGeometry (o : Options) (g : Geometry) : Geometry :=
  { width := o.width.getD g.width
    height := o.height.getD g.height
    bytesPerSample := o.bytesPerSample.getD g.bytesPerSample }

def applyDevice (o : Options) (d : DeviceConfig) : DeviceConfig :=
  { d with
    variant := if o.echo then .simpleBuffer else d.variant
    geometry := o.applyGeometry d.geometry
    pattern := o.pattern.getD d.pattern
    period := o.period.getD d.period }

def applyBind (o : Options) (e : Endpoint) : Endpoint :=
  match o.port with
  | some port => (o.bind.getD e).withPort port
  | none => o.bind.getD e

def applyRelay (o : Options) (r : RelayConfig) : RelayConfig :=
  { r with
    bind := o.applyBind r.bind
    frameBudget := o.frames.getD r.frameBudget }

def apply (o : Options) (c : Config) : Config :=
  { device := o.applyDevice c.device, relay := o.applyRelay c.relay }

@[simp] theorem applyGeometry_applyGeometry (o : Options) (g : Geometry) :
    o.applyGeometry (o.applyGeometry g) = o.applyGeometry g := by
  simp only [applyGeometry, Geometry.mk.injEq]
  cases o.width <;> cases o.height <;> cases o.bytesPerSample <;> simp

@[simp] theorem applyBind_applyBind (o : Options) (e : Endpoint) :
    o.applyBind (o.applyBind e) = o.applyBind e := by
  simp only [applyBind]
  cases o.port <;> cases o.bind <;> simp

end Options

end Framecast.Cli
