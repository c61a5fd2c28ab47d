import Framecast.Device.Kind
import Framecast.Endpoint.Basic

set_option autoImplicit false

namespace Framecast

inductive Variant where
  | simpleBuffer
  | frameProducing
  deriving DecidableEq, Repr

def Variant.name : Variant → String
  | .simpleBuffer => "SimpleBuffer"
  | .frameProducing => "FrameProducing"

def defaultBuffers : UInt64 := 3

def defaultCapacity : UInt64 := 1024

def defaultFrameBudget : UInt64 := 5

def defaultPollInterval : Millis := ⟨100⟩

structure DeviceConfig where
  variant : Variant := .frameProducing
  geometry : Geometry := .vga
  pattern : Pattern := .gradient
  period : Millis := Device.Kind.defaultPeriod
  -- how many frame buffers circulate
  buffers : UInt64 := defaultBuffers
  -- the longest frame of a simple-buffer device
  capacity : UInt64 := defaultCapacity
  deriving DecidableEq, Repr

structure RelayConfig where
  bind : Endpoint := .default
  -- how many frames are sent before the connection is closed
  frameBudget : UInt64 := defaultFrameBudget
  -- how often a waiting relay looks whether it should stop
  pollInterval : Millis := defaultPollInterval
  sendBufferSize : Option UInt64 := none
  deriving DecidableEq, Repr

structure Config where
  device : DeviceConfig := {}
  relay : RelayConfig := {}
  deriving DecidableEq, Repr

/-- The kind of device that is described; fields of the other kind do not matter. -/
def DeviceConfig.kind (c : DeviceConfig) : Device.Kind :=
  match c.variant with
  | .simpleBuffer => .simple c.capacity
  | .frameProducing => .frames c.geometry c.pattern (some c.period)

namespace Config

inductive Invalid where
  | emptyFrame
  | zeroPeriod
  | fewBuffers
  | zeroCapacity
  | zeroPollInterval
  deriving DecidableEq, Repr

def Invalid.message : Invalid → String
  | .emptyFrame => "device.geometry must describe a non-empty frame"
  | .zeroPeriod => "device.period_ms must be greater than 0"
  | .fewBuffers => "device.buffers must be at least 2"
  | .zeroCapacity => "device.capacity must be greater than 0"
  | .zeroPollInterval => "relay.poll_interval_ms must be greater than 0"

def validateDevice (d : DeviceConfig) : Except Invalid Unit :=
  match d.variant with
  | .frameProducing =>
    if d.geometry.frameSize = 0 then .error .emptyFrame
    else if d.period.count = 0 then .error .zeroPeriod
    else if d.buffers < 2 then .error .fewBuffers
    else .ok ()
  | .simpleBuffer => if d.capacity = 0 then .error .zeroCapacity else .ok ()

def validate (c : Config) : Except Invalid Unit :=
  match validateDevice c.device with
  | .error e => .error e
  | .ok () => if c.relay.pollInterval.count = 0 then .error .zeroPollInterval else .ok ()

end Config

end Framecast
