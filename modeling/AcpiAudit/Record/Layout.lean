import AcpiAudit.Bytes.Reader

set_option autoImplicit false

namespace AcpiAudit

structure Placement where
  offset : Nat
  width : Width
deriving Repr, DecidableEq

namespace Placement

def stop (place : Placement) : Nat := place.offset + place.width.bytes

def value (place : Placement) (bytes : Bytes) : Nat := bytes.number place.offset place.width.bytes

end Placement

structure Layout where
  kind : Placement
  length : Placement
deriving Repr, DecidableEq

namespace Layout

def headerSize (layout : Layout) : Nat := max layout.kind.stop layout.length.stop

def kind8Length8 : Layout := ⟨⟨0, .one⟩, ⟨1, .one⟩⟩

def kind8Length16 : Layout := ⟨⟨0, .one⟩, ⟨1, .two⟩⟩

def kind8Gap8Length16 : Layout := ⟨⟨0, .one⟩, ⟨2, .two⟩⟩

def kind16Length16 : Layout := ⟨⟨0, .two⟩, ⟨2, .two⟩⟩

def length16Gap8Kind8 : Layout := ⟨⟨3, .one⟩, ⟨0, .two⟩⟩

theorem headerSize_pos (layout : Layout) : 0 < layout.headerSize := by
  have positive := layout.kind.width.bytes_pos
  simp only [headerSize, Placement.stop]
  omega

end Layout

end AcpiAudit
