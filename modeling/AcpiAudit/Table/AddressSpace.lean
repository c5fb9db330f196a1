set_option autoImplicit false

namespace AcpiAudit

inductive AddressSpace where
  | systemMemory
  | systemIo
  | pciConfig
  | embeddedController
  | smBus
  | systemCmos
  | pciBarTarget
  | ipmi
  | generalPurposeIo
  | genericSerialBus
  | platformCommChannel
  | platformRuntimeMechanism
  | functionalFixedHardware
  | reserved (id : Nat)
  | oem (id : Nat)
deriving Repr, DecidableEq

namespace AddressSpace

def ofId : Nat → AddressSpace
  | 0x00 => systemMemory
  | 0x01 => systemIo
  | 0x02 => pciConfig
  | 0x03 => embeddedController
  | 0x04 => smBus
  | 0x05 => systemCmos
  | 0x06 => pciBarTarget
  | 0x07 => ipmi
  | 0x08 => generalPurposeIo
  | 0x09 => genericSerialBus
  | 0x0A => platformCommChannel
  | 0x0B => platformRuntimeMechanism
  | 0x7F => functionalFixedHardware
  | id => if 0xC0 ≤ id then oem id else reserved id

def id : AddressSpace → Nat
  | systemMemory => 0x00
  | systemIo => 0x01
  | pciConfig => 0x02
  | embeddedController => 0x03
  | smBus => 0x04
  | systemCmos => 0x05
  | pciBarTarget => 0x06
  | ipmi => 0x07
  | generalPurposeIo => 0x08
  | genericSerialBus => 0x09
  | platformCommChannel => 0x0A
  | platformRuntimeMechanism => 0x0B
  | functionalFixedHardware => 0x7F
  | reserved id => id
  | oem id => id

def name : AddressSpace → String
  | systemMemory => "System Memory"
  | systemIo => "System I/O"
  | pciConfig => "PCI Configuration Space"
  | embeddedController => "Embedded Controller"
  | smBus => "SMBus"
  | systemCmos => "System CMOS"
  | pciBarTarget => "PCI BAR Target"
  | ipmi => "IPMI"
  | generalPurposeIo => "General Purpose I/O"
  | genericSerialBus => "Generic Serial Bus"
  | platformCommChannel => "Platform Communications Channel"
  | platformRuntimeMechanism => "Platform Runtime Mechanism"
  | functionalFixedHardware => "Functional Fixed Hardware"
  | reserved _ => "Reserved"
  | oem _ => "OEM Defined"

def tag : AddressSpace → String
  | systemMemory => "SystemMemory"
  | systemIo => "SystemIo"
  | pciConfig => "PciConfig"
  | embeddedController => "EmbeddedController"
  | smBus => "SmBus"
  | systemCmos => "SystemCmos"
  | pciBarTarget => "PciBarTarget"
  | ipmi => "Ipmi"
  | generalPurposeIo => "GeneralPurposeIo"
  | genericSerialBus => "GenericSerialBus"
  | platformCommChannel => "PlatformCommChannel"
  | platformRuntimeMechanism => "PlatformRuntimeMechanism"
  | functionalFixedHardware => "FunctionalFixedHardware"
  | reserved id => s!"Reserved({id})"
  | oem id => s!"Oem({id})"

end AddressSpace

end AcpiAudit
