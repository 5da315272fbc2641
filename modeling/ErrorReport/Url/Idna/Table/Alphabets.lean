import ErrorReport.Url.Idna.Table.Run

/-!
# Mapped characters of the alphabets

Where the domain name mapping sends the code points below U+3000: capitals to small letters,
compatibility forms to their plain forms.
-/

set_option autoImplicit false

namespace ErrorReport.Url.Idna

/-- The code points below U+2000 that map to one character. -/
def alphabetRuns : List Run := [
  ⟨0xA0, 0xA0, 1, 0x20⟩, ⟨0xAA, 0xAA, 1, 0x61⟩, ⟨0xB2, 0xB3, 1, 0x32⟩, ⟨0xB5, 0xB5, 1, 0x3BC⟩,
  ⟨0xB9, 0xB9, 1, 0x31⟩, ⟨0xBA, 0xBA, 1, 0x6F⟩, ⟨0xC0, 0xD6, 1, 0xE0⟩, ⟨0xD8, 0xDE, 1, 0xF8⟩,
  ⟨0x100, 0x12E, 2, 0x101⟩, ⟨0x134, 0x136, 2, 0x135⟩, ⟨0x139, 0x13D, 2, 0x13A⟩,
  ⟨0x141, 0x147, 2, 0x142⟩, ⟨0x14A, 0x176, 2, 0x14B⟩, ⟨0x178, 0x178, 1, 0xFF⟩,
  ⟨0x179, 0x17D, 2, 0x17A⟩, ⟨0x17F, 0x17F, 1, 0x73⟩, ⟨0x181, 0x181, 1, 0x253⟩,
  ⟨0x182, 0x184, 2, 0x183⟩, ⟨0x186, 0x186, 1, 0x254⟩, ⟨0x187, 0x187, 1, 0x188⟩,
  ⟨0x189, 0x18A, 1, 0x256⟩, ⟨0x18B, 0x18B, 1, 0x18C⟩, ⟨0x18E, 0x18E, 1, 0x1DD⟩,
  ⟨0x18F, 0x18F, 1, 0x259⟩, ⟨0x190, 0x190, 1, 0x25B⟩, ⟨0x191, 0x191, 1, 0x192⟩,
  ⟨0x193, 0x193, 1, 0x260⟩, ⟨0x194, 0x194, 1, 0x263⟩, ⟨0x196, 0x196, 1, 0x269⟩,
  ⟨0x197, 0x197, 1, 0x268⟩, ⟨0x198, 0x198, 1, 0x199⟩, ⟨0x19C, 0x19C, 1, 0x26F⟩,
  ⟨0x19D, 0x19D, 1, 0x272⟩, ⟨0x19F, 0x19F, 1, 0x275⟩, ⟨0x1A0, 0x1A4, 2, 0x1A1⟩,
  ⟨0x1A6, 0x1A6, 1, 0x280⟩, ⟨0x1A7, 0x1A7, 1, 0x1A8⟩, ⟨0x1A9, 0x1A9, 1, 0x283⟩,
  ⟨0x1AC, 0x1AC, 1, 0x1AD⟩, ⟨0x1AE, 0x1AE, 1, 0x288⟩, ⟨0x1AF, 0x1AF, 1, 0x1B0⟩,
  ⟨0x1B1, 0x1B2, 1, 0x28A⟩, ⟨0x1B3, 0x1B5, 2, 0x1B4⟩, ⟨0x1B7, 0x1B7, 1, 0x292⟩,
  ⟨0x1B8, 0x1B8, 1, 0x1B9⟩, ⟨0x1BC, 0x1BC, 1, 0x1BD⟩, ⟨0x1CD, 0x1DB, 2, 0x1CE⟩,
  ⟨0x1DE, 0x1EE, 2, 0x1DF⟩, ⟨0x1F4, 0x1F4, 1, 0x1F5⟩, ⟨0x1F6, 0x1F6, 1, 0x195⟩,
  ⟨0x1F7, 0x1F7, 1, 0x1BF⟩, ⟨0x1F8, 0x21E, 2, 0x1F9⟩, ⟨0x220, 0x220, 1, 0x19E⟩,
  ⟨0x222, 0x232, 2, 0x223⟩, ⟨0x23A, 0x23A, 1, 0x2C65⟩, ⟨0x23B, 0x23B, 1, 0x23C⟩,
  ⟨0x23D, 0x23D, 1, 0x19A⟩, ⟨0x23E, 0x23E, 1, 0x2C66⟩, ⟨0x241, 0x241, 1, 0x242⟩,
  ⟨0x243, 0x243, 1, 0x180⟩, ⟨0x244, 0x244, 1, 0x289⟩, ⟨0x245, 0x245, 1, 0x28C⟩,
  ⟨0x246, 0x24E, 2, 0x247⟩, ⟨0x2B0, 0x2B0, 1, 0x68⟩, ⟨0x2B1, 0x2B1, 1, 0x266⟩,
  ⟨0x2B2, 0x2B2, 1, 0x6A⟩, ⟨0x2B3, 0x2B3, 1, 0x72⟩, ⟨0x2B4, 0x2B4, 1, 0x279⟩,
  ⟨0x2B5, 0x2B5, 1, 0x27B⟩, ⟨0x2B6, 0x2B6, 1, 0x281⟩, ⟨0x2B7, 0x2B7, 1, 0x77⟩,
  ⟨0x2B8, 0x2B8, 1, 0x79⟩, ⟨0x2E0, 0x2E0, 1, 0x263⟩, ⟨0x2E1, 0x2E1, 1, 0x6C⟩,
  ⟨0x2E2, 0x2E2, 1, 0x73⟩, ⟨0x2E3, 0x2E3, 1, 0x78⟩, ⟨0x2E4, 0x2E4, 1, 0x295⟩,
  ⟨0x340, 0x341, 1, 0x300⟩, ⟨0x343, 0x343, 1, 0x313⟩, ⟨0x345, 0x345, 1, 0x3B9⟩,
  ⟨0x370, 0x372, 2, 0x371⟩, ⟨0x374, 0x374, 1, 0x2B9⟩, ⟨0x376, 0x376, 1, 0x377⟩,
  ⟨0x37E, 0x37E, 1, 0x3B⟩, ⟨0x37F, 0x37F, 1, 0x3F3⟩, ⟨0x386, 0x386, 1, 0x3AC⟩,
  ⟨0x387, 0x387, 1, 0xB7⟩, ⟨0x388, 0x38A, 1, 0x3AD⟩, ⟨0x38C, 0x38C, 1, 0x3CC⟩,
  ⟨0x38E, 0x38F, 1, 0x3CD⟩, ⟨0x391, 0x3A1, 1, 0x3B1⟩, ⟨0x3A3, 0x3AB, 1, 0x3C3⟩,
  ⟨0x3CF, 0x3CF, 1, 0x3D7⟩, ⟨0x3D0, 0x3D0, 1, 0x3B2⟩, ⟨0x3D1, 0x3D1, 1, 0x3B8⟩,
  ⟨0x3D2, 0x3D2, 1, 0x3C5⟩, ⟨0x3D3, 0x3D3, 1, 0x3CD⟩, ⟨0x3D4, 0x3D4, 1, 0x3CB⟩,
  ⟨0x3D5, 0x3D5, 1, 0x3C6⟩, ⟨0x3D6, 0x3D6, 1, 0x3C0⟩, ⟨0x3D8, 0x3EE, 2, 0x3D9⟩,
  ⟨0x3F0, 0x3F0, 1, 0x3BA⟩, ⟨0x3F1, 0x3F1, 1, 0x3C1⟩, ⟨0x3F2, 0x3F2, 1, 0x3C3⟩,
  ⟨0x3F4, 0x3F4, 1, 0x3B8⟩, ⟨0x3F5, 0x3F5, 1, 0x3B5⟩, ⟨0x3F7, 0x3F7, 1, 0x3F8⟩,
  ⟨0x3F9, 0x3F9, 1, 0x3C3⟩, ⟨0x3FA, 0x3FA, 1, 0x3FB⟩, ⟨0x3FD, 0x3FF, 1, 0x37B⟩,
  ⟨0x400, 0x40F, 1, 0x450⟩, ⟨0x410, 0x42F, 1, 0x430⟩, ⟨0x460, 0x480, 2, 0x461⟩,
  ⟨0x48A, 0x4BE, 2, 0x48B⟩, ⟨0x4C0, 0x4C0, 1, 0x4CF⟩, ⟨0x4C1, 0x4CD, 2, 0x4C2⟩,
  ⟨0x4D0, 0x52E, 2, 0x4D1⟩, ⟨0x531, 0x556, 1, 0x561⟩, ⟨0xF0C, 0xF0C, 1, 0xF0B⟩,
  ⟨0x10A0, 0x10C5, 1, 0x2D00⟩, ⟨0x10C7, 0x10C7, 1, 0x2D27⟩, ⟨0x10CD, 0x10CD, 1, 0x2D2D⟩,
  ⟨0x10FC, 0x10FC, 1, 0x10DC⟩, ⟨0x13F8, 0x13FD, 1, 0x13F0⟩, ⟨0x1C80, 0x1C80, 1, 0x432⟩,
  ⟨0x1C81, 0x1C81, 1, 0x434⟩, ⟨0x1C82, 0x1C82, 1, 0x43E⟩, ⟨0x1C83, 0x1C84, 1, 0x441⟩,
  ⟨0x1C85, 0x1C85, 1, 0x442⟩, ⟨0x1C86, 0x1C86, 1, 0x44A⟩, ⟨0x1C87, 0x1C87, 1, 0x463⟩,
  ⟨0x1C88, 0x1C88, 1, 0xA64B⟩, ⟨0x1C89, 0x1C89, 1, 0x1C8A⟩, ⟨0x1C90, 0x1CBA, 1, 0x10D0⟩,
  ⟨0x1CBD, 0x1CBF, 1, 0x10FD⟩, ⟨0x1D2C, 0x1D2C, 1, 0x61⟩, ⟨0x1D2D, 0x1D2D, 1, 0xE6⟩,
  ⟨0x1D2E, 0x1D30, 2, 0x62⟩, ⟨0x1D31, 0x1D31, 1, 0x65⟩, ⟨0x1D32, 0x1D32, 1, 0x1DD⟩,
  ⟨0x1D33, 0x1D3A, 1, 0x67⟩, ⟨0x1D3C, 0x1D3C, 1, 0x6F⟩, ⟨0x1D3D, 0x1D3D, 1, 0x223⟩,
  ⟨0x1D3E, 0x1D3E, 1, 0x70⟩, ⟨0x1D3F, 0x1D3F, 1, 0x72⟩, ⟨0x1D40, 0x1D41, 1, 0x74⟩,
  ⟨0x1D42, 0x1D42, 1, 0x77⟩, ⟨0x1D43, 0x1D43, 1, 0x61⟩, ⟨0x1D44, 0x1D45, 1, 0x250⟩,
  ⟨0x1D46, 0x1D46, 1, 0x1D02⟩, ⟨0x1D47, 0x1D47, 1, 0x62⟩, ⟨0x1D48, 0x1D49, 1, 0x64⟩,
  ⟨0x1D4A, 0x1D4A, 1, 0x259⟩, ⟨0x1D4B, 0x1D4C, 1, 0x25B⟩, ⟨0x1D4D, 0x1D4D, 1, 0x67⟩,
  ⟨0x1D4F, 0x1D4F, 1, 0x6B⟩, ⟨0x1D50, 0x1D50, 1, 0x6D⟩, ⟨0x1D51, 0x1D51, 1, 0x14B⟩,
  ⟨0x1D52, 0x1D52, 1, 0x6F⟩, ⟨0x1D53, 0x1D53, 1, 0x254⟩, ⟨0x1D54, 0x1D55, 1, 0x1D16⟩,
  ⟨0x1D56, 0x1D56, 1, 0x70⟩, ⟨0x1D57, 0x1D58, 1, 0x74⟩, ⟨0x1D59, 0x1D59, 1, 0x1D1D⟩,
  ⟨0x1D5A, 0x1D5A, 1, 0x26F⟩, ⟨0x1D5B, 0x1D5B, 1, 0x76⟩, ⟨0x1D5C, 0x1D5C, 1, 0x1D25⟩,
  ⟨0x1D5D, 0x1D5F, 1, 0x3B2⟩, ⟨0x1D60, 0x1D61, 1, 0x3C6⟩, ⟨0x1D62, 0x1D62, 1, 0x69⟩,
  ⟨0x1D63, 0x1D63, 1, 0x72⟩, ⟨0x1D64, 0x1D65, 1, 0x75⟩, ⟨0x1D66, 0x1D67, 1, 0x3B2⟩,
  ⟨0x1D68, 0x1D68, 1, 0x3C1⟩, ⟨0x1D69, 0x1D6A, 1, 0x3C6⟩, ⟨0x1D78, 0x1D78, 1, 0x43D⟩,
  ⟨0x1D9B, 0x1D9B, 1, 0x252⟩, ⟨0x1D9C, 0x1D9C, 1, 0x63⟩, ⟨0x1D9D, 0x1D9D, 1, 0x255⟩,
  ⟨0x1D9E, 0x1D9E, 1, 0xF0⟩, ⟨0x1D9F, 0x1D9F, 1, 0x25C⟩, ⟨0x1DA0, 0x1DA0, 1, 0x66⟩,
  ⟨0x1DA1, 0x1DA1, 1, 0x25F⟩, ⟨0x1DA2, 0x1DA2, 1, 0x261⟩, ⟨0x1DA3, 0x1DA3, 1, 0x265⟩,
  ⟨0x1DA4, 0x1DA6, 1, 0x268⟩, ⟨0x1DA7, 0x1DA7, 1, 0x1D7B⟩, ⟨0x1DA8, 0x1DA8, 1, 0x29D⟩,
  ⟨0x1DA9, 0x1DA9, 1, 0x26D⟩, ⟨0x1DAA, 0x1DAA, 1, 0x1D85⟩, ⟨0x1DAB, 0x1DAB, 1, 0x29F⟩,
  ⟨0x1DAC, 0x1DAC, 1, 0x271⟩, ⟨0x1DAD, 0x1DAD, 1, 0x270⟩, ⟨0x1DAE, 0x1DB1, 1, 0x272⟩,
  ⟨0x1DB2, 0x1DB2, 1, 0x278⟩, ⟨0x1DB3, 0x1DB4, 1, 0x282⟩, ⟨0x1DB5, 0x1DB5, 1, 0x1AB⟩,
  ⟨0x1DB6, 0x1DB7, 1, 0x289⟩, ⟨0x1DB8, 0x1DB8, 1, 0x1D1C⟩, ⟨0x1DB9, 0x1DBA, 1, 0x28B⟩,
  ⟨0x1DBB, 0x1DBB, 1, 0x7A⟩, ⟨0x1DBC, 0x1DBE, 1, 0x290⟩, ⟨0x1DBF, 0x1DBF, 1, 0x3B8⟩,
  ⟨0x1E00, 0x1E94, 2, 0x1E01⟩, ⟨0x1E9B, 0x1E9B, 1, 0x1E61⟩, ⟨0x1E9E, 0x1E9E, 1, 0xDF⟩,
  ⟨0x1EA0, 0x1EFE, 2, 0x1EA1⟩, ⟨0x1F08, 0x1F0F, 1, 0x1F00⟩, ⟨0x1F18, 0x1F1D, 1, 0x1F10⟩,
  ⟨0x1F28, 0x1F2F, 1, 0x1F20⟩, ⟨0x1F38, 0x1F3F, 1, 0x1F30⟩, ⟨0x1F48, 0x1F4D, 1, 0x1F40⟩,
  ⟨0x1F59, 0x1F5F, 2, 0x1F51⟩, ⟨0x1F68, 0x1F6F, 1, 0x1F60⟩, ⟨0x1F71, 0x1F71, 1, 0x3AC⟩,
  ⟨0x1F73, 0x1F73, 1, 0x3AD⟩, ⟨0x1F75, 0x1F75, 1, 0x3AE⟩, ⟨0x1F77, 0x1F77, 1, 0x3AF⟩,
  ⟨0x1F79, 0x1F79, 1, 0x3CC⟩, ⟨0x1F7B, 0x1F7B, 1, 0x3CD⟩, ⟨0x1F7D, 0x1F7D, 1, 0x3CE⟩,
  ⟨0x1FB8, 0x1FB9, 1, 0x1FB0⟩, ⟨0x1FBA, 0x1FBA, 1, 0x1F70⟩, ⟨0x1FBB, 0x1FBB, 1, 0x3AC⟩,
  ⟨0x1FBE, 0x1FBE, 1, 0x3B9⟩, ⟨0x1FC8, 0x1FC8, 1, 0x1F72⟩, ⟨0x1FC9, 0x1FC9, 1, 0x3AD⟩,
  ⟨0x1FCA, 0x1FCA, 1, 0x1F74⟩, ⟨0x1FCB, 0x1FCB, 1, 0x3AE⟩, ⟨0x1FD3, 0x1FD3, 1, 0x390⟩,
  ⟨0x1FD8, 0x1FD9, 1, 0x1FD0⟩, ⟨0x1FDA, 0x1FDA, 1, 0x1F76⟩, ⟨0x1FDB, 0x1FDB, 1, 0x3AF⟩,
  ⟨0x1FE3, 0x1FE3, 1, 0x3B0⟩, ⟨0x1FE8, 0x1FE9, 1, 0x1FE0⟩, ⟨0x1FEA, 0x1FEA, 1, 0x1F7A⟩,
  ⟨0x1FEB, 0x1FEB, 1, 0x3CD⟩, ⟨0x1FEC, 0x1FEC, 1, 0x1FE5⟩, ⟨0x1FEF, 0x1FEF, 1, 0x60⟩,
  ⟨0x1FF8, 0x1FF8, 1, 0x1F78⟩, ⟨0x1FF9, 0x1FF9, 1, 0x3CC⟩, ⟨0x1FFA, 0x1FFA, 1, 0x1F7C⟩,
  ⟨0x1FFB, 0x1FFB, 1, 0x3CE⟩]

/-- The code points from U+2000 to U+2FFF that map to one character. -/
def symbolRuns : List Run := [
  ⟨0x2000, 0x2000, 1, 0x20⟩, ⟨0x2001, 0x2001, 1, 0x20⟩, ⟨0x2002, 0x2002, 1, 0x20⟩,
  ⟨0x2003, 0x2003, 1, 0x20⟩, ⟨0x2004, 0x2004, 1, 0x20⟩, ⟨0x2005, 0x2005, 1, 0x20⟩,
  ⟨0x2006, 0x2006, 1, 0x20⟩, ⟨0x2007, 0x2007, 1, 0x20⟩, ⟨0x2008, 0x2008, 1, 0x20⟩,
  ⟨0x2009, 0x2009, 1, 0x20⟩, ⟨0x200A, 0x200A, 1, 0x20⟩, ⟨0x2011, 0x2011, 1, 0x2010⟩,
  ⟨0x202F, 0x202F, 1, 0x20⟩, ⟨0x205F, 0x205F, 1, 0x20⟩, ⟨0x2070, 0x2070, 1, 0x30⟩,
  ⟨0x2071, 0x2071, 1, 0x69⟩, ⟨0x2074, 0x2079, 1, 0x34⟩, ⟨0x207A, 0x207A, 1, 0x2B⟩,
  ⟨0x207B, 0x207B, 1, 0x2212⟩, ⟨0x207C, 0x207C, 1, 0x3D⟩, ⟨0x207D, 0x207E, 1, 0x28⟩,
  ⟨0x207F, 0x207F, 1, 0x6E⟩, ⟨0x2080, 0x2089, 1, 0x30⟩, ⟨0x208A, 0x208A, 1, 0x2B⟩,
  ⟨0x208B, 0x208B, 1, 0x2212⟩, ⟨0x208C, 0x208C, 1, 0x3D⟩, ⟨0x208D, 0x208E, 1, 0x28⟩,
  ⟨0x2090, 0x2090, 1, 0x61⟩, ⟨0x2091, 0x2091, 1, 0x65⟩, ⟨0x2092, 0x2092, 1, 0x6F⟩,
  ⟨0x2093, 0x2093, 1, 0x78⟩, ⟨0x2094, 0x2094, 1, 0x259⟩, ⟨0x2095, 0x2095, 1, 0x68⟩,
  ⟨0x2096, 0x2099, 1, 0x6B⟩, ⟨0x209A, 0x209A, 1, 0x70⟩, ⟨0x209B, 0x209C, 1, 0x73⟩,
  ⟨0x2102, 0x2102, 1, 0x63⟩, ⟨0x2107, 0x2107, 1, 0x25B⟩, ⟨0x210A, 0x210B, 1, 0x67⟩,
  ⟨0x210C, 0x210C, 1, 0x68⟩, ⟨0x210D, 0x210D, 1, 0x68⟩, ⟨0x210E, 0x210E, 1, 0x68⟩,
  ⟨0x210F, 0x210F, 1, 0x127⟩, ⟨0x2110, 0x2110, 1, 0x69⟩, ⟨0x2111, 0x2111, 1, 0x69⟩,
  ⟨0x2112, 0x2112, 1, 0x6C⟩, ⟨0x2113, 0x2115, 2, 0x6C⟩, ⟨0x2119, 0x211B, 1, 0x70⟩,
  ⟨0x211C, 0x211C, 1, 0x72⟩, ⟨0x211D, 0x211D, 1, 0x72⟩, ⟨0x2124, 0x2124, 1, 0x7A⟩,
  ⟨0x2126, 0x2126, 1, 0x3C9⟩, ⟨0x2128, 0x2128, 1, 0x7A⟩, ⟨0x212A, 0x212A, 1, 0x6B⟩,
  ⟨0x212B, 0x212B, 1, 0xE5⟩, ⟨0x212C, 0x212D, 1, 0x62⟩, ⟨0x212F, 0x212F, 1, 0x65⟩,
  ⟨0x2130, 0x2131, 1, 0x65⟩, ⟨0x2132, 0x2132, 1, 0x214E⟩, ⟨0x2133, 0x2133, 1, 0x6D⟩,
  ⟨0x2134, 0x2134, 1, 0x6F⟩, ⟨0x2135, 0x2138, 1, 0x5D0⟩, ⟨0x2139, 0x2139, 1, 0x69⟩,
  ⟨0x213C, 0x213C, 1, 0x3C0⟩, ⟨0x213D, 0x213D, 1, 0x3B3⟩, ⟨0x213E, 0x213E, 1, 0x3B3⟩,
  ⟨0x213F, 0x213F, 1, 0x3C0⟩, ⟨0x2140, 0x2140, 1, 0x2211⟩, ⟨0x2145, 0x2145, 1, 0x64⟩,
  ⟨0x2146, 0x2147, 1, 0x64⟩, ⟨0x2148, 0x2149, 1, 0x69⟩, ⟨0x2160, 0x2160, 1, 0x69⟩,
  ⟨0x2164, 0x2164, 1, 0x76⟩, ⟨0x2169, 0x2169, 1, 0x78⟩, ⟨0x216C, 0x216C, 1, 0x6C⟩,
  ⟨0x216D, 0x216E, 1, 0x63⟩, ⟨0x216F, 0x216F, 1, 0x6D⟩, ⟨0x2170, 0x2170, 1, 0x69⟩,
  ⟨0x2174, 0x2174, 1, 0x76⟩, ⟨0x2179, 0x2179, 1, 0x78⟩, ⟨0x217C, 0x217C, 1, 0x6C⟩,
  ⟨0x217D, 0x217E, 1, 0x63⟩, ⟨0x217F, 0x217F, 1, 0x6D⟩, ⟨0x2183, 0x2183, 1, 0x2184⟩,
  ⟨0x2329, 0x232A, 1, 0x3008⟩, ⟨0x2460, 0x2468, 1, 0x31⟩, ⟨0x24B6, 0x24CF, 1, 0x61⟩,
  ⟨0x24D0, 0x24E9, 1, 0x61⟩, ⟨0x24EA, 0x24EA, 1, 0x30⟩, ⟨0x2C00, 0x2C2F, 1, 0x2C30⟩,
  ⟨0x2C60, 0x2C60, 1, 0x2C61⟩, ⟨0x2C62, 0x2C62, 1, 0x26B⟩, ⟨0x2C63, 0x2C63, 1, 0x1D7D⟩,
  ⟨0x2C64, 0x2C64, 1, 0x27D⟩, ⟨0x2C67, 0x2C6B, 2, 0x2C68⟩, ⟨0x2C6D, 0x2C6D, 1, 0x251⟩,
  ⟨0x2C6E, 0x2C6E, 1, 0x271⟩, ⟨0x2C6F, 0x2C6F, 1, 0x250⟩, ⟨0x2C70, 0x2C70, 1, 0x252⟩,
  ⟨0x2C72, 0x2C72, 1, 0x2C73⟩, ⟨0x2C75, 0x2C75, 1, 0x2C76⟩, ⟨0x2C7C, 0x2C7C, 1, 0x6A⟩,
  ⟨0x2C7D, 0x2C7D, 1, 0x76⟩, ⟨0x2C7E, 0x2C7F, 1, 0x23F⟩, ⟨0x2C80, 0x2CE2, 2, 0x2C81⟩,
  ⟨0x2CEB, 0x2CED, 2, 0x2CEC⟩, ⟨0x2CF2, 0x2CF2, 1, 0x2CF3⟩, ⟨0x2D6F, 0x2D6F, 1, 0x2D61⟩,
  ⟨0x2E9F, 0x2E9F, 1, 0x6BCD⟩, ⟨0x2EF3, 0x2EF3, 1, 0x9F9F⟩, ⟨0x2F00, 0x2F00, 1, 0x4E00⟩,
  ⟨0x2F01, 0x2F01, 1, 0x4E28⟩, ⟨0x2F02, 0x2F02, 1, 0x4E36⟩, ⟨0x2F03, 0x2F03, 1, 0x4E3F⟩,
  ⟨0x2F04, 0x2F04, 1, 0x4E59⟩, ⟨0x2F05, 0x2F05, 1, 0x4E85⟩, ⟨0x2F06, 0x2F06, 1, 0x4E8C⟩,
  ⟨0x2F07, 0x2F07, 1, 0x4EA0⟩, ⟨0x2F08, 0x2F08, 1, 0x4EBA⟩, ⟨0x2F09, 0x2F09, 1, 0x513F⟩,
  ⟨0x2F0A, 0x2F0A, 1, 0x5165⟩, ⟨0x2F0B, 0x2F0B, 1, 0x516B⟩, ⟨0x2F0C, 0x2F0C, 1, 0x5182⟩,
  ⟨0x2F0D, 0x2F0D, 1, 0x5196⟩, ⟨0x2F0E, 0x2F0E, 1, 0x51AB⟩, ⟨0x2F0F, 0x2F0F, 1, 0x51E0⟩,
  ⟨0x2F10, 0x2F10, 1, 0x51F5⟩, ⟨0x2F11, 0x2F11, 1, 0x5200⟩, ⟨0x2F12, 0x2F12, 1, 0x529B⟩,
  ⟨0x2F13, 0x2F13, 1, 0x52F9⟩, ⟨0x2F14, 0x2F14, 1, 0x5315⟩, ⟨0x2F15, 0x2F15, 1, 0x531A⟩,
  ⟨0x2F16, 0x2F16, 1, 0x5338⟩, ⟨0x2F17, 0x2F17, 1, 0x5341⟩, ⟨0x2F18, 0x2F18, 1, 0x535C⟩,
  ⟨0x2F19, 0x2F19, 1, 0x5369⟩, ⟨0x2F1A, 0x2F1A, 1, 0x5382⟩, ⟨0x2F1B, 0x2F1B, 1, 0x53B6⟩,
  ⟨0x2F1C, 0x2F1C, 1, 0x53C8⟩, ⟨0x2F1D, 0x2F1D, 1, 0x53E3⟩, ⟨0x2F1E, 0x2F1E, 1, 0x56D7⟩,
  ⟨0x2F1F, 0x2F1F, 1, 0x571F⟩, ⟨0x2F20, 0x2F20, 1, 0x58EB⟩, ⟨0x2F21, 0x2F21, 1, 0x5902⟩,
  ⟨0x2F22, 0x2F22, 1, 0x590A⟩, ⟨0x2F23, 0x2F23, 1, 0x5915⟩, ⟨0x2F24, 0x2F24, 1, 0x5927⟩,
  ⟨0x2F25, 0x2F25, 1, 0x5973⟩, ⟨0x2F26, 0x2F26, 1, 0x5B50⟩, ⟨0x2F27, 0x2F27, 1, 0x5B80⟩,
  ⟨0x2F28, 0x2F28, 1, 0x5BF8⟩, ⟨0x2F29, 0x2F29, 1, 0x5C0F⟩, ⟨0x2F2A, 0x2F2A, 1, 0x5C22⟩,
  ⟨0x2F2B, 0x2F2B, 1, 0x5C38⟩, ⟨0x2F2C, 0x2F2C, 1, 0x5C6E⟩, ⟨0x2F2D, 0x2F2D, 1, 0x5C71⟩,
  ⟨0x2F2E, 0x2F2E, 1, 0x5DDB⟩, ⟨0x2F2F, 0x2F2F, 1, 0x5DE5⟩, ⟨0x2F30, 0x2F30, 1, 0x5DF1⟩,
  ⟨0x2F31, 0x2F31, 1, 0x5DFE⟩, ⟨0x2F32, 0x2F32, 1, 0x5E72⟩, ⟨0x2F33, 0x2F33, 1, 0x5E7A⟩,
  ⟨0x2F34, 0x2F34, 1, 0x5E7F⟩, ⟨0x2F35, 0x2F35, 1, 0x5EF4⟩, ⟨0x2F36, 0x2F36, 1, 0x5EFE⟩,
  ⟨0x2F37, 0x2F37, 1, 0x5F0B⟩, ⟨0x2F38, 0x2F38, 1, 0x5F13⟩, ⟨0x2F39, 0x2F39, 1, 0x5F50⟩,
  ⟨0x2F3A, 0x2F3A, 1, 0x5F61⟩, ⟨0x2F3B, 0x2F3B, 1, 0x5F73⟩, ⟨0x2F3C, 0x2F3C, 1, 0x5FC3⟩,
  ⟨0x2F3D, 0x2F3D, 1, 0x6208⟩, ⟨0x2F3E, 0x2F3E, 1, 0x6236⟩, ⟨0x2F3F, 0x2F3F, 1, 0x624B⟩,
  ⟨0x2F40, 0x2F40, 1, 0x652F⟩, ⟨0x2F41, 0x2F41, 1, 0x6534⟩, ⟨0x2F42, 0x2F42, 1, 0x6587⟩,
  ⟨0x2F43, 0x2F43, 1, 0x6597⟩, ⟨0x2F44, 0x2F44, 1, 0x65A4⟩, ⟨0x2F45, 0x2F45, 1, 0x65B9⟩,
  ⟨0x2F46, 0x2F46, 1, 0x65E0⟩, ⟨0x2F47, 0x2F47, 1, 0x65E5⟩, ⟨0x2F48, 0x2F48, 1, 0x66F0⟩,
  ⟨0x2F49, 0x2F49, 1, 0x6708⟩, ⟨0x2F4A, 0x2F4A, 1, 0x6728⟩, ⟨0x2F4B, 0x2F4B, 1, 0x6B20⟩,
  ⟨0x2F4C, 0x2F4C, 1, 0x6B62⟩, ⟨0x2F4D, 0x2F4D, 1, 0x6B79⟩, ⟨0x2F4E, 0x2F4E, 1, 0x6BB3⟩,
  ⟨0x2F4F, 0x2F4F, 1, 0x6BCB⟩, ⟨0x2F50, 0x2F50, 1, 0x6BD4⟩, ⟨0x2F51, 0x2F51, 1, 0x6BDB⟩,
  ⟨0x2F52, 0x2F52, 1, 0x6C0F⟩, ⟨0x2F53, 0x2F53, 1, 0x6C14⟩, ⟨0x2F54, 0x2F54, 1, 0x6C34⟩,
  ⟨0x2F55, 0x2F55, 1, 0x706B⟩, ⟨0x2F56, 0x2F56, 1, 0x722A⟩, ⟨0x2F57, 0x2F57, 1, 0x7236⟩,
  ⟨0x2F58, 0x2F58, 1, 0x723B⟩, ⟨0x2F59, 0x2F59, 1, 0x723F⟩, ⟨0x2F5A, 0x2F5A, 1, 0x7247⟩,
  ⟨0x2F5B, 0x2F5B, 1, 0x7259⟩, ⟨0x2F5C, 0x2F5C, 1, 0x725B⟩, ⟨0x2F5D, 0x2F5D, 1, 0x72AC⟩,
  ⟨0x2F5E, 0x2F5E, 1, 0x7384⟩, ⟨0x2F5F, 0x2F5F, 1, 0x7389⟩, ⟨0x2F60, 0x2F60, 1, 0x74DC⟩,
  ⟨0x2F61, 0x2F61, 1, 0x74E6⟩, ⟨0x2F62, 0x2F62, 1, 0x7518⟩, ⟨0x2F63, 0x2F63, 1, 0x751F⟩,
  ⟨0x2F64, 0x2F64, 1, 0x7528⟩, ⟨0x2F65, 0x2F65, 1, 0x7530⟩, ⟨0x2F66, 0x2F66, 1, 0x758B⟩,
  ⟨0x2F67, 0x2F67, 1, 0x7592⟩, ⟨0x2F68, 0x2F68, 1, 0x7676⟩, ⟨0x2F69, 0x2F69, 1, 0x767D⟩,
  ⟨0x2F6A, 0x2F6A, 1, 0x76AE⟩, ⟨0x2F6B, 0x2F6B, 1, 0x76BF⟩, ⟨0x2F6C, 0x2F6C, 1, 0x76EE⟩,
  ⟨0x2F6D, 0x2F6D, 1, 0x77DB⟩, ⟨0x2F6E, 0x2F6E, 1, 0x77E2⟩, ⟨0x2F6F, 0x2F6F, 1, 0x77F3⟩,
  ⟨0x2F70, 0x2F70, 1, 0x793A⟩, ⟨0x2F71, 0x2F71, 1, 0x79B8⟩, ⟨0x2F72, 0x2F72, 1, 0x79BE⟩,
  ⟨0x2F73, 0x2F73, 1, 0x7A74⟩, ⟨0x2F74, 0x2F74, 1, 0x7ACB⟩, ⟨0x2F75, 0x2F75, 1, 0x7AF9⟩,
  ⟨0x2F76, 0x2F76, 1, 0x7C73⟩, ⟨0x2F77, 0x2F77, 1, 0x7CF8⟩, ⟨0x2F78, 0x2F78, 1, 0x7F36⟩,
  ⟨0x2F79, 0x2F79, 1, 0x7F51⟩, ⟨0x2F7A, 0x2F7A, 1, 0x7F8A⟩, ⟨0x2F7B, 0x2F7B, 1, 0x7FBD⟩,
  ⟨0x2F7C, 0x2F7C, 1, 0x8001⟩, ⟨0x2F7D, 0x2F7D, 1, 0x800C⟩, ⟨0x2F7E, 0x2F7E, 1, 0x8012⟩,
  ⟨0x2F7F, 0x2F7F, 1, 0x8033⟩, ⟨0x2F80, 0x2F80, 1, 0x807F⟩, ⟨0x2F81, 0x2F81, 1, 0x8089⟩,
  ⟨0x2F82, 0x2F82, 1, 0x81E3⟩, ⟨0x2F83, 0x2F83, 1, 0x81EA⟩, ⟨0x2F84, 0x2F84, 1, 0x81F3⟩,
  ⟨0x2F85, 0x2F85, 1, 0x81FC⟩, ⟨0x2F86, 0x2F86, 1, 0x820C⟩, ⟨0x2F87, 0x2F87, 1, 0x821B⟩,
  ⟨0x2F88, 0x2F88, 1, 0x821F⟩, ⟨0x2F89, 0x2F89, 1, 0x826E⟩, ⟨0x2F8A, 0x2F8A, 1, 0x8272⟩,
  ⟨0x2F8B, 0x2F8B, 1, 0x8278⟩, ⟨0x2F8C, 0x2F8C, 1, 0x864D⟩, ⟨0x2F8D, 0x2F8D, 1, 0x866B⟩,
  ⟨0x2F8E, 0x2F8E, 1, 0x8840⟩, ⟨0x2F8F, 0x2F8F, 1, 0x884C⟩, ⟨0x2F90, 0x2F90, 1, 0x8863⟩,
  ⟨0x2F91, 0x2F91, 1, 0x897E⟩, ⟨0x2F92, 0x2F92, 1, 0x898B⟩, ⟨0x2F93, 0x2F93, 1, 0x89D2⟩,
  ⟨0x2F94, 0x2F94, 1, 0x8A00⟩, ⟨0x2F95, 0x2F95, 1, 0x8C37⟩, ⟨0x2F96, 0x2F96, 1, 0x8C46⟩,
  ⟨0x2F97, 0x2F97, 1, 0x8C55⟩, ⟨0x2F98, 0x2F98, 1, 0x8C78⟩, ⟨0x2F99, 0x2F99, 1, 0x8C9D⟩,
  ⟨0x2F9A, 0x2F9A, 1, 0x8D64⟩, ⟨0x2F9B, 0x2F9B, 1, 0x8D70⟩, ⟨0x2F9C, 0x2F9C, 1, 0x8DB3⟩,
  ⟨0x2F9D, 0x2F9D, 1, 0x8EAB⟩, ⟨0x2F9E, 0x2F9E, 1, 0x8ECA⟩, ⟨0x2F9F, 0x2F9F, 1, 0x8F9B⟩,
  ⟨0x2FA0, 0x2FA0, 1, 0x8FB0⟩, ⟨0x2FA1, 0x2FA1, 1, 0x8FB5⟩, ⟨0x2FA2, 0x2FA2, 1, 0x9091⟩,
  ⟨0x2FA3, 0x2FA3, 1, 0x9149⟩, ⟨0x2FA4, 0x2FA4, 1, 0x91C6⟩, ⟨0x2FA5, 0x2FA5, 1, 0x91CC⟩,
  ⟨0x2FA6, 0x2FA6, 1, 0x91D1⟩, ⟨0x2FA7, 0x2FA7, 1, 0x9577⟩, ⟨0x2FA8, 0x2FA8, 1, 0x9580⟩,
  ⟨0x2FA9, 0x2FA9, 1, 0x961C⟩, ⟨0x2FAA, 0x2FAA, 1, 0x96B6⟩, ⟨0x2FAB, 0x2FAB, 1, 0x96B9⟩,
  ⟨0x2FAC, 0x2FAC, 1, 0x96E8⟩, ⟨0x2FAD, 0x2FAD, 1, 0x9751⟩, ⟨0x2FAE, 0x2FAE, 1, 0x975E⟩,
  ⟨0x2FAF, 0x2FAF, 1, 0x9762⟩, ⟨0x2FB0, 0x2FB0, 1, 0x9769⟩, ⟨0x2FB1, 0x2FB1, 1, 0x97CB⟩,
  ⟨0x2FB2, 0x2FB2, 1, 0x97ED⟩, ⟨0x2FB3, 0x2FB3, 1, 0x97F3⟩, ⟨0x2FB4, 0x2FB4, 1, 0x9801⟩,
  ⟨0x2FB5, 0x2FB5, 1, 0x98A8⟩, ⟨0x2FB6, 0x2FB6, 1, 0x98DB⟩, ⟨0x2FB7, 0x2FB7, 1, 0x98DF⟩,
  ⟨0x2FB8, 0x2FB8, 1, 0x9996⟩, ⟨0x2FB9, 0x2FB9, 1, 0x9999⟩, ⟨0x2FBA, 0x2FBA, 1, 0x99AC⟩,
  ⟨0x2FBB, 0x2FBB, 1, 0x9AA8⟩, ⟨0x2FBC, 0x2FBC, 1, 0x9AD8⟩, ⟨0x2FBD, 0x2FBD, 1, 0x9ADF⟩,
  ⟨0x2FBE, 0x2FBE, 1, 0x9B25⟩, ⟨0x2FBF, 0x2FBF, 1, 0x9B2F⟩, ⟨0x2FC0, 0x2FC0, 1, 0x9B32⟩,
  ⟨0x2FC1, 0x2FC1, 1, 0x9B3C⟩, ⟨0x2FC2, 0x2FC2, 1, 0x9B5A⟩, ⟨0x2FC3, 0x2FC3, 1, 0x9CE5⟩,
  ⟨0x2FC4, 0x2FC4, 1, 0x9E75⟩, ⟨0x2FC5, 0x2FC5, 1, 0x9E7F⟩, ⟨0x2FC6, 0x2FC6, 1, 0x9EA5⟩,
  ⟨0x2FC7, 0x2FC7, 1, 0x9EBB⟩, ⟨0x2FC8, 0x2FC8, 1, 0x9EC3⟩, ⟨0x2FC9, 0x2FC9, 1, 0x9ECD⟩,
  ⟨0x2FCA, 0x2FCA, 1, 0x9ED1⟩, ⟨0x2FCB, 0x2FCB, 1, 0x9EF9⟩, ⟨0x2FCC, 0x2FCC, 1, 0x9EFD⟩,
  ⟨0x2FCD, 0x2FCD, 1, 0x9F0E⟩, ⟨0x2FCE, 0x2FCE, 1, 0x9F13⟩, ⟨0x2FCF, 0x2FCF, 1, 0x9F20⟩,
  ⟨0x2FD0, 0x2FD0, 1, 0x9F3B⟩, ⟨0x2FD1, 0x2FD1, 1, 0x9F4A⟩, ⟨0x2FD2, 0x2FD2, 1, 0x9F52⟩,
  ⟨0x2FD3, 0x2FD3, 1, 0x9F8D⟩, ⟨0x2FD4, 0x2FD4, 1, 0x9F9C⟩, ⟨0x2FD5, 0x2FD5, 1, 0x9FA0⟩]

/-- The code points below U+3000 that map to several characters. -/
def alphabetSequences : List (Nat × List Nat) := [
  (0xA8, [0x20, 0x308]), (0xAF, [0x20, 0x304]), (0xB4, [0x20, 0x301]), (0xB8, [0x20, 0x327]),
  (0xBC, [0x31, 0x2044, 0x34]), (0xBD, [0x31, 0x2044, 0x32]), (0xBE, [0x33, 0x2044, 0x34]),
  (0x130, [0x69, 0x307]), (0x132, [0x69, 0x6A]), (0x133, [0x69, 0x6A]), (0x13F, [0x6C, 0xB7]),
  (0x140, [0x6C, 0xB7]), (0x149, [0x2BC, 0x6E]), (0x1C4, [0x64, 0x17E]), (0x1C5, [0x64, 0x17E]),
  (0x1C6, [0x64, 0x17E]), (0x1C7, [0x6C, 0x6A]), (0x1C8, [0x6C, 0x6A]), (0x1C9, [0x6C, 0x6A]),
  (0x1CA, [0x6E, 0x6A]), (0x1CB, [0x6E, 0x6A]), (0x1CC, [0x6E, 0x6A]), (0x1F1, [0x64, 0x7A]),
  (0x1F2, [0x64, 0x7A]), (0x1F3, [0x64, 0x7A]), (0x2D8, [0x20, 0x306]), (0x2D9, [0x20, 0x307]),
  (0x2DA, [0x20, 0x30A]), (0x2DB, [0x20, 0x328]), (0x2DC, [0x20, 0x303]), (0x2DD, [0x20, 0x30B]),
  (0x344, [0x308, 0x301]), (0x37A, [0x20, 0x3B9]), (0x384, [0x20, 0x301]),
  (0x385, [0x20, 0x308, 0x301]), (0x587, [0x565, 0x582]), (0x675, [0x627, 0x674]),
  (0x676, [0x648, 0x674]), (0x677, [0x6C7, 0x674]), (0x678, [0x64A, 0x674]),
  (0x958, [0x915, 0x93C]), (0x959, [0x916, 0x93C]), (0x95A, [0x917, 0x93C]),
  (0x95B, [0x91C, 0x93C]), (0x95C, [0x921, 0x93C]), (0x95D, [0x922, 0x93C]),
  (0x95E, [0x92B, 0x93C]), (0x95F, [0x92F, 0x93C]), (0x9DC, [0x9A1, 0x9BC]),
  (0x9DD, [0x9A2, 0x9BC]), (0x9DF, [0x9AF, 0x9BC]), (0xA33, [0xA32, 0xA3C]),
  (0xA36, [0xA38, 0xA3C]), (0xA59, [0xA16, 0xA3C]), (0xA5A, [0xA17, 0xA3C]),
  (0xA5B, [0xA1C, 0xA3C]), (0xA5E, [0xA2B, 0xA3C]), (0xB5C, [0xB21, 0xB3C]),
  (0xB5D, [0xB22, 0xB3C]), (0xE33, [0xE4D, 0xE32]), (0xEB3, [0xECD, 0xEB2]),
  (0xEDC, [0xEAB, 0xE99]), (0xEDD, [0xEAB, 0xEA1]), (0xF43, [0xF42, 0xFB7]),
  (0xF4D, [0xF4C, 0xFB7]), (0xF52, [0xF51, 0xFB7]), (0xF57, [0xF56, 0xFB7]),
  (0xF5C, [0xF5B, 0xFB7]), (0xF69, [0xF40, 0xFB5]), (0xF73, [0xF71, 0xF72]),
  (0xF75, [0xF71, 0xF74]), (0xF76, [0xFB2, 0xF80]), (0xF77, [0xFB2, 0xF71, 0xF80]),
  (0xF78, [0xFB3, 0xF80]), (0xF79, [0xFB3, 0xF71, 0xF80]), (0xF81, [0xF71, 0xF80]),
  (0xF93, [0xF92, 0xFB7]), (0xF9D, [0xF9C, 0xFB7]), (0xFA2, [0xFA1, 0xFB7]),
  (0xFA7, [0xFA6, 0xFB7]), (0xFAC, [0xFAB, 0xFB7]), (0xFB9, [0xF90, 0xFB5]),
  (0x1E9A, [0x61, 0x2BE]), (0x1F80, [0x1F00, 0x3B9]), (0x1F81, [0x1F01, 0x3B9]),
  (0x1F82, [0x1F02, 0x3B9]), (0x1F83, [0x1F03, 0x3B9]), (0x1F84, [0x1F04, 0x3B9]),
  (0x1F85, [0x1F05, 0x3B9]), (0x1F86, [0x1F06, 0x3B9]), (0x1F87, [0x1F07, 0x3B9]),
  (0x1F88, [0x1F00, 0x3B9]), (0x1F89, [0x1F01, 0x3B9]), (0x1F8A, [0x1F02, 0x3B9]),
  (0x1F8B, [0x1F03, 0x3B9]), (0x1F8C, [0x1F04, 0x3B9]), (0x1F8D, [0x1F05, 0x3B9]),
  (0x1F8E, [0x1F06, 0x3B9]), (0x1F8F, [0x1F07, 0x3B9]), (0x1F90, [0x1F20, 0x3B9]),
  (0x1F91, [0x1F21, 0x3B9]), (0x1F92, [0x1F22, 0x3B9]), (0x1F93, [0x1F23, 0x3B9]),
  (0x1F94, [0x1F24, 0x3B9]), (0x1F95, [0x1F25, 0x3B9]), (0x1F96, [0x1F26, 0x3B9]),
  (0x1F97, [0x1F27, 0x3B9]), (0x1F98, [0x1F20, 0x3B9]), (0x1F99, [0x1F21, 0x3B9]),
  (0x1F9A, [0x1F22, 0x3B9]), (0x1F9B, [0x1F23, 0x3B9]), (0x1F9C, [0x1F24, 0x3B9]),
  (0x1F9D, [0x1F25, 0x3B9]), (0x1F9E, [0x1F26, 0x3B9]), (0x1F9F, [0x1F27, 0x3B9]),
  (0x1FA0, [0x1F60, 0x3B9]), (0x1FA1, [0x1F61, 0x3B9]), (0x1FA2, [0x1F62, 0x3B9]),
  (0x1FA3, [0x1F63, 0x3B9]), (0x1FA4, [0x1F64, 0x3B9]), (0x1FA5, [0x1F65, 0x3B9]),
  (0x1FA6, [0x1F66, 0x3B9]), (0x1FA7, [0x1F67, 0x3B9]), (0x1FA8, [0x1F60, 0x3B9]),
  (0x1FA9, [0x1F61, 0x3B9]), (0x1FAA, [0x1F62, 0x3B9]), (0x1FAB, [0x1F63, 0x3B9]),
  (0x1FAC, [0x1F64, 0x3B9]), (0x1FAD, [0x1F65, 0x3B9]), (0x1FAE, [0x1F66, 0x3B9]),
  (0x1FAF, [0x1F67, 0x3B9]), (0x1FB2, [0x1F70, 0x3B9]), (0x1FB3, [0x3B1, 0x3B9]),
  (0x1FB4, [0x3AC, 0x3B9]), (0x1FB7, [0x1FB6, 0x3B9]), (0x1FBC, [0x3B1, 0x3B9]),
  (0x1FBD, [0x20, 0x313]), (0x1FBF, [0x20, 0x313]), (0x1FC0, [0x20, 0x342]),
  (0x1FC1, [0x20, 0x308, 0x342]), (0x1FC2, [0x1F74, 0x3B9]), (0x1FC3, [0x3B7, 0x3B9]),
  (0x1FC4, [0x3AE, 0x3B9]), (0x1FC7, [0x1FC6, 0x3B9]), (0x1FCC, [0x3B7, 0x3B9]),
  (0x1FCD, [0x20, 0x313, 0x300]), (0x1FCE, [0x20, 0x313, 0x301]), (0x1FCF, [0x20, 0x313, 0x342]),
  (0x1FDD, [0x20, 0x314, 0x300]), (0x1FDE, [0x20, 0x314, 0x301]), (0x1FDF, [0x20, 0x314, 0x342]),
  (0x1FED, [0x20, 0x308, 0x300]), (0x1FEE, [0x20, 0x308, 0x301]), (0x1FF2, [0x1F7C, 0x3B9]),
  (0x1FF3, [0x3C9, 0x3B9]), (0x1FF4, [0x3CE, 0x3B9]), (0x1FF7, [0x1FF6, 0x3B9]),
  (0x1FFC, [0x3C9, 0x3B9]), (0x1FFD, [0x20, 0x301]), (0x1FFE, [0x20, 0x314]),
  (0x2017, [0x20, 0x333]), (0x2033, [0x2032, 0x2032]), (0x2034, [0x2032, 0x2032, 0x2032]),
  (0x2036, [0x2035, 0x2035]), (0x2037, [0x2035, 0x2035, 0x2035]), (0x203C, [0x21, 0x21]),
  (0x203E, [0x20, 0x305]), (0x2047, [0x3F, 0x3F]), (0x2048, [0x3F, 0x21]), (0x2049, [0x21, 0x3F]),
  (0x2057, [0x2032, 0x2032, 0x2032, 0x2032]), (0x20A8, [0x72, 0x73]), (0x2100, [0x61, 0x2F, 0x63]),
  (0x2101, [0x61, 0x2F, 0x73]), (0x2103, [0xB0, 0x63]), (0x2105, [0x63, 0x2F, 0x6F]),
  (0x2106, [0x63, 0x2F, 0x75]), (0x2109, [0xB0, 0x66]), (0x2116, [0x6E, 0x6F]),
  (0x2120, [0x73, 0x6D]), (0x2121, [0x74, 0x65, 0x6C]), (0x2122, [0x74, 0x6D]),
  (0x213B, [0x66, 0x61, 0x78]), (0x2150, [0x31, 0x2044, 0x37]), (0x2151, [0x31, 0x2044, 0x39]),
  (0x2152, [0x31, 0x2044, 0x31, 0x30]), (0x2153, [0x31, 0x2044, 0x33]),
  (0x2154, [0x32, 0x2044, 0x33]), (0x2155, [0x31, 0x2044, 0x35]), (0x2156, [0x32, 0x2044, 0x35]),
  (0x2157, [0x33, 0x2044, 0x35]), (0x2158, [0x34, 0x2044, 0x35]), (0x2159, [0x31, 0x2044, 0x36]),
  (0x215A, [0x35, 0x2044, 0x36]), (0x215B, [0x31, 0x2044, 0x38]), (0x215C, [0x33, 0x2044, 0x38]),
  (0x215D, [0x35, 0x2044, 0x38]), (0x215E, [0x37, 0x2044, 0x38]), (0x215F, [0x31, 0x2044]),
  (0x2161, [0x69, 0x69]), (0x2162, [0x69, 0x69, 0x69]), (0x2163, [0x69, 0x76]),
  (0x2165, [0x76, 0x69]), (0x2166, [0x76, 0x69, 0x69]), (0x2167, [0x76, 0x69, 0x69, 0x69]),
  (0x2168, [0x69, 0x78]), (0x216A, [0x78, 0x69]), (0x216B, [0x78, 0x69, 0x69]),
  (0x2171, [0x69, 0x69]), (0x2172, [0x69, 0x69, 0x69]), (0x2173, [0x69, 0x76]),
  (0x2175, [0x76, 0x69]), (0x2176, [0x76, 0x69, 0x69]), (0x2177, [0x76, 0x69, 0x69, 0x69]),
  (0x2178, [0x69, 0x78]), (0x217A, [0x78, 0x69]), (0x217B, [0x78, 0x69, 0x69]),
  (0x2189, [0x30, 0x2044, 0x33]), (0x222C, [0x222B, 0x222B]), (0x222D, [0x222B, 0x222B, 0x222B]),
  (0x222F, [0x222E, 0x222E]), (0x2230, [0x222E, 0x222E, 0x222E]), (0x2469, [0x31, 0x30]),
  (0x246A, [0x31, 0x31]), (0x246B, [0x31, 0x32]), (0x246C, [0x31, 0x33]), (0x246D, [0x31, 0x34]),
  (0x246E, [0x31, 0x35]), (0x246F, [0x31, 0x36]), (0x2470, [0x31, 0x37]), (0x2471, [0x31, 0x38]),
  (0x2472, [0x31, 0x39]), (0x2473, [0x32, 0x30]), (0x2474, [0x28, 0x31, 0x29]),
  (0x2475, [0x28, 0x32, 0x29]), (0x2476, [0x28, 0x33, 0x29]), (0x2477, [0x28, 0x34, 0x29]),
  (0x2478, [0x28, 0x35, 0x29]), (0x2479, [0x28, 0x36, 0x29]), (0x247A, [0x28, 0x37, 0x29]),
  (0x247B, [0x28, 0x38, 0x29]), (0x247C, [0x28, 0x39, 0x29]), (0x247D, [0x28, 0x31, 0x30, 0x29]),
  (0x247E, [0x28, 0x31, 0x31, 0x29]), (0x247F, [0x28, 0x31, 0x32, 0x29]),
  (0x2480, [0x28, 0x31, 0x33, 0x29]), (0x2481, [0x28, 0x31, 0x34, 0x29]),
  (0x2482, [0x28, 0x31, 0x35, 0x29]), (0x2483, [0x28, 0x31, 0x36, 0x29]),
  (0x2484, [0x28, 0x31, 0x37, 0x29]), (0x2485, [0x28, 0x31, 0x38, 0x29]),
  (0x2486, [0x28, 0x31, 0x39, 0x29]), (0x2487, [0x28, 0x32, 0x30, 0x29]),
  (0x249C, [0x28, 0x61, 0x29]), (0x249D, [0x28, 0x62, 0x29]), (0x249E, [0x28, 0x63, 0x29]),
  (0x249F, [0x28, 0x64, 0x29]), (0x24A0, [0x28, 0x65, 0x29]), (0x24A1, [0x28, 0x66, 0x29]),
  (0x24A2, [0x28, 0x67, 0x29]), (0x24A3, [0x28, 0x68, 0x29]), (0x24A4, [0x28, 0x69, 0x29]),
  (0x24A5, [0x28, 0x6A, 0x29]), (0x24A6, [0x28, 0x6B, 0x29]), (0x24A7, [0x28, 0x6C, 0x29]),
  (0x24A8, [0x28, 0x6D, 0x29]), (0x24A9, [0x28, 0x6E, 0x29]), (0x24AA, [0x28, 0x6F, 0x29]),
  (0x24AB, [0x28, 0x70, 0x29]), (0x24AC, [0x28, 0x71, 0x29]), (0x24AD, [0x28, 0x72, 0x29]),
  (0x24AE, [0x28, 0x73, 0x29]), (0x24AF, [0x28, 0x74, 0x29]), (0x24B0, [0x28, 0x75, 0x29]),
  (0x24B1, [0x28, 0x76, 0x29]), (0x24B2, [0x28, 0x77, 0x29]), (0x24B3, [0x28, 0x78, 0x29]),
  (0x24B4, [0x28, 0x79, 0x29]), (0x24B5, [0x28, 0x7A, 0x29]),
  (0x2A0C, [0x222B, 0x222B, 0x222B, 0x222B]), (0x2A74, [0x3A, 0x3A, 0x3D]), (0x2A75, [0x3D, 0x3D]),
  (0x2A76, [0x3D, 0x3D, 0x3D]), (0x2ADC, [0x2ADD, 0x338])]

end ErrorReport.Url.Idna
