import CellScreen.Text.CharSet

/-! The columns that a character takes on the screen: two for the wide ones, one for
every other, combining marks and controls included. -/
namespace CellScreen.Text

def wide : CharSet where
  changes := [
    0x1100, 0x1160, 0x17A4, 0x17A5, 0x231A, 0x231C, 0x2329, 0x232B, 0x23E9, 0x23ED, 0x23F0,
    0x23F1, 0x23F3, 0x23F4, 0x25FD, 0x25FF, 0x2614, 0x2616, 0x2648, 0x2654, 0x267F, 0x2680,
    0x2693, 0x2694, 0x26A1, 0x26A2, 0x26AA, 0x26AC, 0x26BD, 0x26BF, 0x26C4, 0x26C6, 0x26CE,
    0x26CF, 0x26D4, 0x26D5, 0x26EA, 0x26EB, 0x26F2, 0x26F4, 0x26F5, 0x26F6, 0x26FA, 0x26FB,
    0x26FD, 0x26FE, 0x2705, 0x2706, 0x270A, 0x270C, 0x2728, 0x2729, 0x274C, 0x274D, 0x274E,
    0x274F, 0x2753, 0x2756, 0x2757, 0x2758, 0x2795, 0x2798, 0x27B0, 0x27B1, 0x27BF, 0x27C0,
    0x2B1B, 0x2B1D, 0x2B50, 0x2B51, 0x2B55, 0x2B56, 0x2E80, 0x2E9A, 0x2E9B, 0x2EF4, 0x2F00,
    0x2FD6, 0x2FF0, 0x302A, 0x3030, 0x303F, 0x3041, 0x3097, 0x309B, 0x3100, 0x3105, 0x3130,
    0x3131, 0x3164, 0x3165, 0x318F, 0x3190, 0x31E4, 0x31EF, 0x321F, 0x3220, 0x3248, 0x3250,
    0x4DC0, 0x4E00, 0xA48D, 0xA490, 0xA4C7, 0xA960, 0xA97D, 0xAC00, 0xD7A4, 0xF900, 0xFB00,
    0xFE10, 0xFE1A, 0xFE30, 0xFE53, 0xFE54, 0xFE67, 0xFE68, 0xFE6C, 0xFF01, 0xFF61, 0xFFE0,
    0xFFE7, 0x16FE0, 0x16FE4, 0x16FF0, 0x16FF2, 0x17000, 0x187F8, 0x18800, 0x18CD6, 0x18D00,
    0x18D09, 0x1AFF0, 0x1AFF4, 0x1AFF5, 0x1AFFC, 0x1AFFD, 0x1AFFF, 0x1B000, 0x1B123, 0x1B132,
    0x1B133, 0x1B150, 0x1B153, 0x1B155, 0x1B156, 0x1B164, 0x1B168, 0x1B170, 0x1B2FC, 0x1F004,
    0x1F005, 0x1F0CF, 0x1F0D0, 0x1F18E, 0x1F18F, 0x1F191, 0x1F19B, 0x1F200, 0x1F203, 0x1F210,
    0x1F23C, 0x1F240, 0x1F249, 0x1F250, 0x1F252, 0x1F260, 0x1F266, 0x1F300, 0x1F321, 0x1F32D,
    0x1F336, 0x1F337, 0x1F37D, 0x1F37E, 0x1F394, 0x1F3A0, 0x1F3CB, 0x1F3CF, 0x1F3D4, 0x1F3E0,
    0x1F3F1, 0x1F3F4, 0x1F3F5, 0x1F3F8, 0x1F43F, 0x1F440, 0x1F441, 0x1F442, 0x1F4FD, 0x1F4FF,
    0x1F53E, 0x1F54B, 0x1F54F, 0x1F550, 0x1F568, 0x1F57A, 0x1F57B, 0x1F595, 0x1F597, 0x1F5A4,
    0x1F5A5, 0x1F5FB, 0x1F650, 0x1F680, 0x1F6C6, 0x1F6CC, 0x1F6CD, 0x1F6D0, 0x1F6D3, 0x1F6D5,
    0x1F6D8, 0x1F6DC, 0x1F6E0, 0x1F6EB, 0x1F6ED, 0x1F6F4, 0x1F6FD, 0x1F7E0, 0x1F7EC, 0x1F7F0,
    0x1F7F1, 0x1F90C, 0x1F93B, 0x1F93C, 0x1F946, 0x1F947, 0x1FA00, 0x1FA70, 0x1FA7D, 0x1FA80,
    0x1FA89, 0x1FA90, 0x1FABE, 0x1FABF, 0x1FAC6, 0x1FACE, 0x1FADC, 0x1FAE0, 0x1FAE9, 0x1FAF0,
    0x1FAF9, 0x20000, 0x2FFFE, 0x30000, 0x3FFFE
  ]

def columns (c : Char) : UInt8 := if wide.contains c then 2 else 1

end CellScreen.Text
