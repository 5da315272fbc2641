import ErrorReport.Url.Idna.Table.Run

/-!
# Mapped characters of East Asia and presentation forms

Where the domain name mapping sends the code points from U+3000 to U+FFFF.
-/

set_option autoImplicit false

namespace ErrorReport.Url.Idna

/-- The code points from U+3000 to U+FAFF that map to one character. -/
def ideographRuns : List Run := [
  ⟨0x3000, 0x3000, 1, 0x20⟩, ⟨0x3002, 0x3002, 1, 0x2E⟩, ⟨0x3036, 0x3036, 1, 0x3012⟩,
  ⟨0x3038, 0x3038, 1, 0x5341⟩, ⟨0x3039, 0x303A, 1, 0x5344⟩, ⟨0x3131, 0x3132, 1, 0x1100⟩,
  ⟨0x3133, 0x3133, 1, 0x11AA⟩, ⟨0x3134, 0x3134, 1, 0x1102⟩, ⟨0x3135, 0x3136, 1, 0x11AC⟩,
  ⟨0x3137, 0x3139, 1, 0x1103⟩, ⟨0x313A, 0x313F, 1, 0x11B0⟩, ⟨0x3140, 0x3140, 1, 0x111A⟩,
  ⟨0x3141, 0x3143, 1, 0x1106⟩, ⟨0x3144, 0x3144, 1, 0x1121⟩, ⟨0x3145, 0x314E, 1, 0x1109⟩,
  ⟨0x314F, 0x3163, 1, 0x1161⟩, ⟨0x3165, 0x3166, 1, 0x1114⟩, ⟨0x3167, 0x3168, 1, 0x11C7⟩,
  ⟨0x3169, 0x3169, 1, 0x11CC⟩, ⟨0x316A, 0x316A, 1, 0x11CE⟩, ⟨0x316B, 0x316B, 1, 0x11D3⟩,
  ⟨0x316C, 0x316C, 1, 0x11D7⟩, ⟨0x316D, 0x316D, 1, 0x11D9⟩, ⟨0x316E, 0x316E, 1, 0x111C⟩,
  ⟨0x316F, 0x316F, 1, 0x11DD⟩, ⟨0x3170, 0x3170, 1, 0x11DF⟩, ⟨0x3171, 0x3172, 1, 0x111D⟩,
  ⟨0x3173, 0x3173, 1, 0x1120⟩, ⟨0x3174, 0x3175, 1, 0x1122⟩, ⟨0x3176, 0x3176, 1, 0x1127⟩,
  ⟨0x3177, 0x3177, 1, 0x1129⟩, ⟨0x3178, 0x317C, 1, 0x112B⟩, ⟨0x317D, 0x317D, 1, 0x1132⟩,
  ⟨0x317E, 0x317E, 1, 0x1136⟩, ⟨0x317F, 0x317F, 1, 0x1140⟩, ⟨0x3180, 0x3180, 1, 0x1147⟩,
  ⟨0x3181, 0x3181, 1, 0x114C⟩, ⟨0x3182, 0x3183, 1, 0x11F1⟩, ⟨0x3184, 0x3186, 1, 0x1157⟩,
  ⟨0x3187, 0x3188, 1, 0x1184⟩, ⟨0x3189, 0x3189, 1, 0x1188⟩, ⟨0x318A, 0x318B, 1, 0x1191⟩,
  ⟨0x318C, 0x318C, 1, 0x1194⟩, ⟨0x318D, 0x318D, 1, 0x119E⟩, ⟨0x318E, 0x318E, 1, 0x11A1⟩,
  ⟨0x3192, 0x3192, 1, 0x4E00⟩, ⟨0x3193, 0x3193, 1, 0x4E8C⟩, ⟨0x3194, 0x3194, 1, 0x4E09⟩,
  ⟨0x3195, 0x3195, 1, 0x56DB⟩, ⟨0x3196, 0x3196, 1, 0x4E0A⟩, ⟨0x3197, 0x3197, 1, 0x4E2D⟩,
  ⟨0x3198, 0x3198, 1, 0x4E0B⟩, ⟨0x3199, 0x3199, 1, 0x7532⟩, ⟨0x319A, 0x319A, 1, 0x4E59⟩,
  ⟨0x319B, 0x319B, 1, 0x4E19⟩, ⟨0x319C, 0x319C, 1, 0x4E01⟩, ⟨0x319D, 0x319D, 1, 0x5929⟩,
  ⟨0x319E, 0x319E, 1, 0x5730⟩, ⟨0x319F, 0x319F, 1, 0x4EBA⟩, ⟨0x3244, 0x3244, 1, 0x554F⟩,
  ⟨0x3245, 0x3245, 1, 0x5E7C⟩, ⟨0x3246, 0x3246, 1, 0x6587⟩, ⟨0x3247, 0x3247, 1, 0x7B8F⟩,
  ⟨0x3260, 0x3260, 1, 0x1100⟩, ⟨0x3261, 0x3262, 1, 0x1102⟩, ⟨0x3263, 0x3265, 1, 0x1105⟩,
  ⟨0x3266, 0x3266, 1, 0x1109⟩, ⟨0x3267, 0x3268, 1, 0x110B⟩, ⟨0x3269, 0x326D, 1, 0x110E⟩,
  ⟨0x326E, 0x326E, 1, 0xAC00⟩, ⟨0x326F, 0x326F, 1, 0xB098⟩, ⟨0x3270, 0x3270, 1, 0xB2E4⟩,
  ⟨0x3271, 0x3271, 1, 0xB77C⟩, ⟨0x3272, 0x3272, 1, 0xB9C8⟩, ⟨0x3273, 0x3273, 1, 0xBC14⟩,
  ⟨0x3274, 0x3274, 1, 0xC0AC⟩, ⟨0x3275, 0x3275, 1, 0xC544⟩, ⟨0x3276, 0x3276, 1, 0xC790⟩,
  ⟨0x3277, 0x3277, 1, 0xCC28⟩, ⟨0x3278, 0x3278, 1, 0xCE74⟩, ⟨0x3279, 0x3279, 1, 0xD0C0⟩,
  ⟨0x327A, 0x327A, 1, 0xD30C⟩, ⟨0x327B, 0x327B, 1, 0xD558⟩, ⟨0x327E, 0x327E, 1, 0xC6B0⟩,
  ⟨0x3280, 0x3280, 1, 0x4E00⟩, ⟨0x3281, 0x3281, 1, 0x4E8C⟩, ⟨0x3282, 0x3282, 1, 0x4E09⟩,
  ⟨0x3283, 0x3283, 1, 0x56DB⟩, ⟨0x3284, 0x3284, 1, 0x4E94⟩, ⟨0x3285, 0x3285, 1, 0x516D⟩,
  ⟨0x3286, 0x3286, 1, 0x4E03⟩, ⟨0x3287, 0x3287, 1, 0x516B⟩, ⟨0x3288, 0x3288, 1, 0x4E5D⟩,
  ⟨0x3289, 0x3289, 1, 0x5341⟩, ⟨0x328A, 0x328A, 1, 0x6708⟩, ⟨0x328B, 0x328B, 1, 0x706B⟩,
  ⟨0x328C, 0x328C, 1, 0x6C34⟩, ⟨0x328D, 0x328D, 1, 0x6728⟩, ⟨0x328E, 0x328E, 1, 0x91D1⟩,
  ⟨0x328F, 0x328F, 1, 0x571F⟩, ⟨0x3290, 0x3290, 1, 0x65E5⟩, ⟨0x3291, 0x3291, 1, 0x682A⟩,
  ⟨0x3292, 0x3292, 1, 0x6709⟩, ⟨0x3293, 0x3293, 1, 0x793E⟩, ⟨0x3294, 0x3294, 1, 0x540D⟩,
  ⟨0x3295, 0x3295, 1, 0x7279⟩, ⟨0x3296, 0x3296, 1, 0x8CA1⟩, ⟨0x3297, 0x3297, 1, 0x795D⟩,
  ⟨0x3298, 0x3298, 1, 0x52B4⟩, ⟨0x3299, 0x3299, 1, 0x79D8⟩, ⟨0x329A, 0x329A, 1, 0x7537⟩,
  ⟨0x329B, 0x329B, 1, 0x5973⟩, ⟨0x329C, 0x329C, 1, 0x9069⟩, ⟨0x329D, 0x329D, 1, 0x512A⟩,
  ⟨0x329E, 0x329E, 1, 0x5370⟩, ⟨0x329F, 0x329F, 1, 0x6CE8⟩, ⟨0x32A0, 0x32A0, 1, 0x9805⟩,
  ⟨0x32A1, 0x32A1, 1, 0x4F11⟩, ⟨0x32A2, 0x32A2, 1, 0x5199⟩, ⟨0x32A3, 0x32A3, 1, 0x6B63⟩,
  ⟨0x32A4, 0x32A4, 1, 0x4E0A⟩, ⟨0x32A5, 0x32A5, 1, 0x4E2D⟩, ⟨0x32A6, 0x32A6, 1, 0x4E0B⟩,
  ⟨0x32A7, 0x32A7, 1, 0x5DE6⟩, ⟨0x32A8, 0x32A8, 1, 0x53F3⟩, ⟨0x32A9, 0x32A9, 1, 0x533B⟩,
  ⟨0x32AA, 0x32AA, 1, 0x5B97⟩, ⟨0x32AB, 0x32AB, 1, 0x5B66⟩, ⟨0x32AC, 0x32AC, 1, 0x76E3⟩,
  ⟨0x32AD, 0x32AD, 1, 0x4F01⟩, ⟨0x32AE, 0x32AE, 1, 0x8CC7⟩, ⟨0x32AF, 0x32AF, 1, 0x5354⟩,
  ⟨0x32B0, 0x32B0, 1, 0x591C⟩, ⟨0x32D0, 0x32D0, 1, 0x30A2⟩, ⟨0x32D1, 0x32D1, 1, 0x30A4⟩,
  ⟨0x32D2, 0x32D2, 1, 0x30A6⟩, ⟨0x32D3, 0x32D3, 1, 0x30A8⟩, ⟨0x32D4, 0x32D5, 1, 0x30AA⟩,
  ⟨0x32D6, 0x32D6, 1, 0x30AD⟩, ⟨0x32D7, 0x32D7, 1, 0x30AF⟩, ⟨0x32D8, 0x32D8, 1, 0x30B1⟩,
  ⟨0x32D9, 0x32D9, 1, 0x30B3⟩, ⟨0x32DA, 0x32DA, 1, 0x30B5⟩, ⟨0x32DB, 0x32DB, 1, 0x30B7⟩,
  ⟨0x32DC, 0x32DC, 1, 0x30B9⟩, ⟨0x32DD, 0x32DD, 1, 0x30BB⟩, ⟨0x32DE, 0x32DE, 1, 0x30BD⟩,
  ⟨0x32DF, 0x32DF, 1, 0x30BF⟩, ⟨0x32E0, 0x32E0, 1, 0x30C1⟩, ⟨0x32E1, 0x32E1, 1, 0x30C4⟩,
  ⟨0x32E2, 0x32E2, 1, 0x30C6⟩, ⟨0x32E3, 0x32E3, 1, 0x30C8⟩, ⟨0x32E4, 0x32E9, 1, 0x30CA⟩,
  ⟨0x32EA, 0x32EA, 1, 0x30D2⟩, ⟨0x32EB, 0x32EB, 1, 0x30D5⟩, ⟨0x32EC, 0x32EC, 1, 0x30D8⟩,
  ⟨0x32ED, 0x32ED, 1, 0x30DB⟩, ⟨0x32EE, 0x32F2, 1, 0x30DE⟩, ⟨0x32F3, 0x32F3, 1, 0x30E4⟩,
  ⟨0x32F4, 0x32F4, 1, 0x30E6⟩, ⟨0x32F5, 0x32FA, 1, 0x30E8⟩, ⟨0x32FB, 0x32FE, 1, 0x30EF⟩,
  ⟨0xA640, 0xA66C, 2, 0xA641⟩, ⟨0xA680, 0xA69A, 2, 0xA681⟩, ⟨0xA69C, 0xA69C, 1, 0x44A⟩,
  ⟨0xA69D, 0xA69D, 1, 0x44C⟩, ⟨0xA722, 0xA72E, 2, 0xA723⟩, ⟨0xA732, 0xA76E, 2, 0xA733⟩,
  ⟨0xA770, 0xA770, 1, 0xA76F⟩, ⟨0xA779, 0xA77B, 2, 0xA77A⟩, ⟨0xA77D, 0xA77D, 1, 0x1D79⟩,
  ⟨0xA77E, 0xA786, 2, 0xA77F⟩, ⟨0xA78B, 0xA78B, 1, 0xA78C⟩, ⟨0xA78D, 0xA78D, 1, 0x265⟩,
  ⟨0xA790, 0xA792, 2, 0xA791⟩, ⟨0xA796, 0xA7A8, 2, 0xA797⟩, ⟨0xA7AA, 0xA7AA, 1, 0x266⟩,
  ⟨0xA7AB, 0xA7AB, 1, 0x25C⟩, ⟨0xA7AC, 0xA7AC, 1, 0x261⟩, ⟨0xA7AD, 0xA7AD, 1, 0x26C⟩,
  ⟨0xA7AE, 0xA7AE, 1, 0x26A⟩, ⟨0xA7B0, 0xA7B0, 1, 0x29E⟩, ⟨0xA7B1, 0xA7B1, 1, 0x287⟩,
  ⟨0xA7B2, 0xA7B2, 1, 0x29D⟩, ⟨0xA7B3, 0xA7B3, 1, 0xAB53⟩, ⟨0xA7B4, 0xA7C2, 2, 0xA7B5⟩,
  ⟨0xA7C4, 0xA7C4, 1, 0xA794⟩, ⟨0xA7C5, 0xA7C5, 1, 0x282⟩, ⟨0xA7C6, 0xA7C6, 1, 0x1D8E⟩,
  ⟨0xA7C7, 0xA7C9, 2, 0xA7C8⟩, ⟨0xA7CB, 0xA7CB, 1, 0x264⟩, ⟨0xA7CC, 0xA7DA, 2, 0xA7CD⟩,
  ⟨0xA7DC, 0xA7DC, 1, 0x19B⟩, ⟨0xA7F1, 0xA7F1, 1, 0x73⟩, ⟨0xA7F2, 0xA7F2, 1, 0x63⟩,
  ⟨0xA7F3, 0xA7F3, 1, 0x66⟩, ⟨0xA7F4, 0xA7F4, 1, 0x71⟩, ⟨0xA7F5, 0xA7F5, 1, 0xA7F6⟩,
  ⟨0xA7F8, 0xA7F8, 1, 0x127⟩, ⟨0xA7F9, 0xA7F9, 1, 0x153⟩, ⟨0xAB5C, 0xAB5C, 1, 0xA727⟩,
  ⟨0xAB5D, 0xAB5D, 1, 0xAB37⟩, ⟨0xAB5E, 0xAB5E, 1, 0x26B⟩, ⟨0xAB5F, 0xAB5F, 1, 0xAB52⟩,
  ⟨0xAB69, 0xAB69, 1, 0x28D⟩, ⟨0xAB70, 0xABBF, 1, 0x13A0⟩, ⟨0xF900, 0xF900, 1, 0x8C48⟩,
  ⟨0xF901, 0xF901, 1, 0x66F4⟩, ⟨0xF902, 0xF902, 1, 0x8ECA⟩, ⟨0xF903, 0xF903, 1, 0x8CC8⟩,
  ⟨0xF904, 0xF904, 1, 0x6ED1⟩, ⟨0xF905, 0xF905, 1, 0x4E32⟩, ⟨0xF906, 0xF906, 1, 0x53E5⟩,
  ⟨0xF907, 0xF907, 1, 0x9F9C⟩, ⟨0xF908, 0xF908, 1, 0x9F9C⟩, ⟨0xF909, 0xF909, 1, 0x5951⟩,
  ⟨0xF90A, 0xF90A, 1, 0x91D1⟩, ⟨0xF90B, 0xF90B, 1, 0x5587⟩, ⟨0xF90C, 0xF90C, 1, 0x5948⟩,
  ⟨0xF90D, 0xF90D, 1, 0x61F6⟩, ⟨0xF90E, 0xF90E, 1, 0x7669⟩, ⟨0xF90F, 0xF90F, 1, 0x7F85⟩,
  ⟨0xF910, 0xF910, 1, 0x863F⟩, ⟨0xF911, 0xF911, 1, 0x87BA⟩, ⟨0xF912, 0xF912, 1, 0x88F8⟩,
  ⟨0xF913, 0xF913, 1, 0x908F⟩, ⟨0xF914, 0xF914, 1, 0x6A02⟩, ⟨0xF915, 0xF915, 1, 0x6D1B⟩,
  ⟨0xF916, 0xF916, 1, 0x70D9⟩, ⟨0xF917, 0xF917, 1, 0x73DE⟩, ⟨0xF918, 0xF918, 1, 0x843D⟩,
  ⟨0xF919, 0xF919, 1, 0x916A⟩, ⟨0xF91A, 0xF91A, 1, 0x99F1⟩, ⟨0xF91B, 0xF91B, 1, 0x4E82⟩,
  ⟨0xF91C, 0xF91C, 1, 0x5375⟩, ⟨0xF91D, 0xF91D, 1, 0x6B04⟩, ⟨0xF91E, 0xF91E, 1, 0x721B⟩,
  ⟨0xF91F, 0xF91F, 1, 0x862D⟩, ⟨0xF920, 0xF920, 1, 0x9E1E⟩, ⟨0xF921, 0xF921, 1, 0x5D50⟩,
  ⟨0xF922, 0xF922, 1, 0x6FEB⟩, ⟨0xF923, 0xF923, 1, 0x85CD⟩, ⟨0xF924, 0xF924, 1, 0x8964⟩,
  ⟨0xF925, 0xF925, 1, 0x62C9⟩, ⟨0xF926, 0xF926, 1, 0x81D8⟩, ⟨0xF927, 0xF927, 1, 0x881F⟩,
  ⟨0xF928, 0xF928, 1, 0x5ECA⟩, ⟨0xF929, 0xF929, 1, 0x6717⟩, ⟨0xF92A, 0xF92A, 1, 0x6D6A⟩,
  ⟨0xF92B, 0xF92B, 1, 0x72FC⟩, ⟨0xF92C, 0xF92C, 1, 0x90CE⟩, ⟨0xF92D, 0xF92D, 1, 0x4F86⟩,
  ⟨0xF92E, 0xF92E, 1, 0x51B7⟩, ⟨0xF92F, 0xF92F, 1, 0x52DE⟩, ⟨0xF930, 0xF930, 1, 0x64C4⟩,
  ⟨0xF931, 0xF931, 1, 0x6AD3⟩, ⟨0xF932, 0xF932, 1, 0x7210⟩, ⟨0xF933, 0xF933, 1, 0x76E7⟩,
  ⟨0xF934, 0xF934, 1, 0x8001⟩, ⟨0xF935, 0xF935, 1, 0x8606⟩, ⟨0xF936, 0xF936, 1, 0x865C⟩,
  ⟨0xF937, 0xF937, 1, 0x8DEF⟩, ⟨0xF938, 0xF938, 1, 0x9732⟩, ⟨0xF939, 0xF939, 1, 0x9B6F⟩,
  ⟨0xF93A, 0xF93A, 1, 0x9DFA⟩, ⟨0xF93B, 0xF93B, 1, 0x788C⟩, ⟨0xF93C, 0xF93C, 1, 0x797F⟩,
  ⟨0xF93D, 0xF93D, 1, 0x7DA0⟩, ⟨0xF93E, 0xF93E, 1, 0x83C9⟩, ⟨0xF93F, 0xF93F, 1, 0x9304⟩,
  ⟨0xF940, 0xF940, 1, 0x9E7F⟩, ⟨0xF941, 0xF941, 1, 0x8AD6⟩, ⟨0xF942, 0xF942, 1, 0x58DF⟩,
  ⟨0xF943, 0xF943, 1, 0x5F04⟩, ⟨0xF944, 0xF944, 1, 0x7C60⟩, ⟨0xF945, 0xF945, 1, 0x807E⟩,
  ⟨0xF946, 0xF946, 1, 0x7262⟩, ⟨0xF947, 0xF947, 1, 0x78CA⟩, ⟨0xF948, 0xF948, 1, 0x8CC2⟩,
  ⟨0xF949, 0xF949, 1, 0x96F7⟩, ⟨0xF94A, 0xF94A, 1, 0x58D8⟩, ⟨0xF94B, 0xF94B, 1, 0x5C62⟩,
  ⟨0xF94C, 0xF94C, 1, 0x6A13⟩, ⟨0xF94D, 0xF94D, 1, 0x6DDA⟩, ⟨0xF94E, 0xF94E, 1, 0x6F0F⟩,
  ⟨0xF94F, 0xF94F, 1, 0x7D2F⟩, ⟨0xF950, 0xF950, 1, 0x7E37⟩, ⟨0xF951, 0xF951, 1, 0x964B⟩,
  ⟨0xF952, 0xF952, 1, 0x52D2⟩, ⟨0xF953, 0xF953, 1, 0x808B⟩, ⟨0xF954, 0xF954, 1, 0x51DC⟩,
  ⟨0xF955, 0xF955, 1, 0x51CC⟩, ⟨0xF956, 0xF956, 1, 0x7A1C⟩, ⟨0xF957, 0xF957, 1, 0x7DBE⟩,
  ⟨0xF958, 0xF958, 1, 0x83F1⟩, ⟨0xF959, 0xF959, 1, 0x9675⟩, ⟨0xF95A, 0xF95A, 1, 0x8B80⟩,
  ⟨0xF95B, 0xF95B, 1, 0x62CF⟩, ⟨0xF95C, 0xF95C, 1, 0x6A02⟩, ⟨0xF95D, 0xF95D, 1, 0x8AFE⟩,
  ⟨0xF95E, 0xF95E, 1, 0x4E39⟩, ⟨0xF95F, 0xF95F, 1, 0x5BE7⟩, ⟨0xF960, 0xF960, 1, 0x6012⟩,
  ⟨0xF961, 0xF961, 1, 0x7387⟩, ⟨0xF962, 0xF962, 1, 0x7570⟩, ⟨0xF963, 0xF963, 1, 0x5317⟩,
  ⟨0xF964, 0xF964, 1, 0x78FB⟩, ⟨0xF965, 0xF965, 1, 0x4FBF⟩, ⟨0xF966, 0xF966, 1, 0x5FA9⟩,
  ⟨0xF967, 0xF967, 1, 0x4E0D⟩, ⟨0xF968, 0xF968, 1, 0x6CCC⟩, ⟨0xF969, 0xF969, 1, 0x6578⟩,
  ⟨0xF96A, 0xF96A, 1, 0x7D22⟩, ⟨0xF96B, 0xF96B, 1, 0x53C3⟩, ⟨0xF96C, 0xF96C, 1, 0x585E⟩,
  ⟨0xF96D, 0xF96D, 1, 0x7701⟩, ⟨0xF96E, 0xF96E, 1, 0x8449⟩, ⟨0xF96F, 0xF96F, 1, 0x8AAA⟩,
  ⟨0xF970, 0xF970, 1, 0x6BBA⟩, ⟨0xF971, 0xF971, 1, 0x8FB0⟩, ⟨0xF972, 0xF972, 1, 0x6C88⟩,
  ⟨0xF973, 0xF973, 1, 0x62FE⟩, ⟨0xF974, 0xF974, 1, 0x82E5⟩, ⟨0xF975, 0xF975, 1, 0x63A0⟩,
  ⟨0xF976, 0xF976, 1, 0x7565⟩, ⟨0xF977, 0xF977, 1, 0x4EAE⟩, ⟨0xF978, 0xF978, 1, 0x5169⟩,
  ⟨0xF979, 0xF979, 1, 0x51C9⟩, ⟨0xF97A, 0xF97A, 1, 0x6881⟩, ⟨0xF97B, 0xF97B, 1, 0x7CE7⟩,
  ⟨0xF97C, 0xF97C, 1, 0x826F⟩, ⟨0xF97D, 0xF97D, 1, 0x8AD2⟩, ⟨0xF97E, 0xF97E, 1, 0x91CF⟩,
  ⟨0xF97F, 0xF97F, 1, 0x52F5⟩, ⟨0xF980, 0xF980, 1, 0x5442⟩, ⟨0xF981, 0xF981, 1, 0x5973⟩,
  ⟨0xF982, 0xF982, 1, 0x5EEC⟩, ⟨0xF983, 0xF983, 1, 0x65C5⟩, ⟨0xF984, 0xF984, 1, 0x6FFE⟩,
  ⟨0xF985, 0xF985, 1, 0x792A⟩, ⟨0xF986, 0xF986, 1, 0x95AD⟩, ⟨0xF987, 0xF987, 1, 0x9A6A⟩,
  ⟨0xF988, 0xF988, 1, 0x9E97⟩, ⟨0xF989, 0xF989, 1, 0x9ECE⟩, ⟨0xF98A, 0xF98A, 1, 0x529B⟩,
  ⟨0xF98B, 0xF98B, 1, 0x66C6⟩, ⟨0xF98C, 0xF98C, 1, 0x6B77⟩, ⟨0xF98D, 0xF98D, 1, 0x8F62⟩,
  ⟨0xF98E, 0xF98E, 1, 0x5E74⟩, ⟨0xF98F, 0xF98F, 1, 0x6190⟩, ⟨0xF990, 0xF990, 1, 0x6200⟩,
  ⟨0xF991, 0xF991, 1, 0x649A⟩, ⟨0xF992, 0xF992, 1, 0x6F23⟩, ⟨0xF993, 0xF993, 1, 0x7149⟩,
  ⟨0xF994, 0xF994, 1, 0x7489⟩, ⟨0xF995, 0xF995, 1, 0x79CA⟩, ⟨0xF996, 0xF996, 1, 0x7DF4⟩,
  ⟨0xF997, 0xF997, 1, 0x806F⟩, ⟨0xF998, 0xF998, 1, 0x8F26⟩, ⟨0xF999, 0xF999, 1, 0x84EE⟩,
  ⟨0xF99A, 0xF99A, 1, 0x9023⟩, ⟨0xF99B, 0xF99B, 1, 0x934A⟩, ⟨0xF99C, 0xF99C, 1, 0x5217⟩,
  ⟨0xF99D, 0xF99D, 1, 0x52A3⟩, ⟨0xF99E, 0xF99E, 1, 0x54BD⟩, ⟨0xF99F, 0xF99F, 1, 0x70C8⟩,
  ⟨0xF9A0, 0xF9A0, 1, 0x88C2⟩, ⟨0xF9A1, 0xF9A1, 1, 0x8AAA⟩, ⟨0xF9A2, 0xF9A2, 1, 0x5EC9⟩,
  ⟨0xF9A3, 0xF9A3, 1, 0x5FF5⟩, ⟨0xF9A4, 0xF9A4, 1, 0x637B⟩, ⟨0xF9A5, 0xF9A5, 1, 0x6BAE⟩,
  ⟨0xF9A6, 0xF9A6, 1, 0x7C3E⟩, ⟨0xF9A7, 0xF9A7, 1, 0x7375⟩, ⟨0xF9A8, 0xF9A8, 1, 0x4EE4⟩,
  ⟨0xF9A9, 0xF9A9, 1, 0x56F9⟩, ⟨0xF9AA, 0xF9AA, 1, 0x5BE7⟩, ⟨0xF9AB, 0xF9AB, 1, 0x5DBA⟩,
  ⟨0xF9AC, 0xF9AC, 1, 0x601C⟩, ⟨0xF9AD, 0xF9AD, 1, 0x73B2⟩, ⟨0xF9AE, 0xF9AE, 1, 0x7469⟩,
  ⟨0xF9AF, 0xF9AF, 1, 0x7F9A⟩, ⟨0xF9B0, 0xF9B0, 1, 0x8046⟩, ⟨0xF9B1, 0xF9B1, 1, 0x9234⟩,
  ⟨0xF9B2, 0xF9B2, 1, 0x96F6⟩, ⟨0xF9B3, 0xF9B3, 1, 0x9748⟩, ⟨0xF9B4, 0xF9B4, 1, 0x9818⟩,
  ⟨0xF9B5, 0xF9B5, 1, 0x4F8B⟩, ⟨0xF9B6, 0xF9B6, 1, 0x79AE⟩, ⟨0xF9B7, 0xF9B7, 1, 0x91B4⟩,
  ⟨0xF9B8, 0xF9B8, 1, 0x96B8⟩, ⟨0xF9B9, 0xF9B9, 1, 0x60E1⟩, ⟨0xF9BA, 0xF9BA, 1, 0x4E86⟩,
  ⟨0xF9BB, 0xF9BB, 1, 0x50DA⟩, ⟨0xF9BC, 0xF9BC, 1, 0x5BEE⟩, ⟨0xF9BD, 0xF9BD, 1, 0x5C3F⟩,
  ⟨0xF9BE, 0xF9BE, 1, 0x6599⟩, ⟨0xF9BF, 0xF9BF, 1, 0x6A02⟩, ⟨0xF9C0, 0xF9C0, 1, 0x71CE⟩,
  ⟨0xF9C1, 0xF9C1, 1, 0x7642⟩, ⟨0xF9C2, 0xF9C2, 1, 0x84FC⟩, ⟨0xF9C3, 0xF9C3, 1, 0x907C⟩,
  ⟨0xF9C4, 0xF9C4, 1, 0x9F8D⟩, ⟨0xF9C5, 0xF9C5, 1, 0x6688⟩, ⟨0xF9C6, 0xF9C6, 1, 0x962E⟩,
  ⟨0xF9C7, 0xF9C7, 1, 0x5289⟩, ⟨0xF9C8, 0xF9C8, 1, 0x677B⟩, ⟨0xF9C9, 0xF9C9, 1, 0x67F3⟩,
  ⟨0xF9CA, 0xF9CA, 1, 0x6D41⟩, ⟨0xF9CB, 0xF9CB, 1, 0x6E9C⟩, ⟨0xF9CC, 0xF9CC, 1, 0x7409⟩,
  ⟨0xF9CD, 0xF9CD, 1, 0x7559⟩, ⟨0xF9CE, 0xF9CE, 1, 0x786B⟩, ⟨0xF9CF, 0xF9CF, 1, 0x7D10⟩,
  ⟨0xF9D0, 0xF9D0, 1, 0x985E⟩, ⟨0xF9D1, 0xF9D1, 1, 0x516D⟩, ⟨0xF9D2, 0xF9D2, 1, 0x622E⟩,
  ⟨0xF9D3, 0xF9D3, 1, 0x9678⟩, ⟨0xF9D4, 0xF9D4, 1, 0x502B⟩, ⟨0xF9D5, 0xF9D5, 1, 0x5D19⟩,
  ⟨0xF9D6, 0xF9D6, 1, 0x6DEA⟩, ⟨0xF9D7, 0xF9D7, 1, 0x8F2A⟩, ⟨0xF9D8, 0xF9D8, 1, 0x5F8B⟩,
  ⟨0xF9D9, 0xF9D9, 1, 0x6144⟩, ⟨0xF9DA, 0xF9DA, 1, 0x6817⟩, ⟨0xF9DB, 0xF9DB, 1, 0x7387⟩,
  ⟨0xF9DC, 0xF9DC, 1, 0x9686⟩, ⟨0xF9DD, 0xF9DD, 1, 0x5229⟩, ⟨0xF9DE, 0xF9DE, 1, 0x540F⟩,
  ⟨0xF9DF, 0xF9DF, 1, 0x5C65⟩, ⟨0xF9E0, 0xF9E0, 1, 0x6613⟩, ⟨0xF9E1, 0xF9E1, 1, 0x674E⟩,
  ⟨0xF9E2, 0xF9E2, 1, 0x68A8⟩, ⟨0xF9E3, 0xF9E3, 1, 0x6CE5⟩, ⟨0xF9E4, 0xF9E4, 1, 0x7406⟩,
  ⟨0xF9E5, 0xF9E5, 1, 0x75E2⟩, ⟨0xF9E6, 0xF9E6, 1, 0x7F79⟩, ⟨0xF9E7, 0xF9E7, 1, 0x88CF⟩,
  ⟨0xF9E8, 0xF9E8, 1, 0x88E1⟩, ⟨0xF9E9, 0xF9E9, 1, 0x91CC⟩, ⟨0xF9EA, 0xF9EA, 1, 0x96E2⟩,
  ⟨0xF9EB, 0xF9EB, 1, 0x533F⟩, ⟨0xF9EC, 0xF9EC, 1, 0x6EBA⟩, ⟨0xF9ED, 0xF9ED, 1, 0x541D⟩,
  ⟨0xF9EE, 0xF9EE, 1, 0x71D0⟩, ⟨0xF9EF, 0xF9EF, 1, 0x7498⟩, ⟨0xF9F0, 0xF9F0, 1, 0x85FA⟩,
  ⟨0xF9F1, 0xF9F1, 1, 0x96A3⟩, ⟨0xF9F2, 0xF9F2, 1, 0x9C57⟩, ⟨0xF9F3, 0xF9F3, 1, 0x9E9F⟩,
  ⟨0xF9F4, 0xF9F4, 1, 0x6797⟩, ⟨0xF9F5, 0xF9F5, 1, 0x6DCB⟩, ⟨0xF9F6, 0xF9F6, 1, 0x81E8⟩,
  ⟨0xF9F7, 0xF9F7, 1, 0x7ACB⟩, ⟨0xF9F8, 0xF9F8, 1, 0x7B20⟩, ⟨0xF9F9, 0xF9F9, 1, 0x7C92⟩,
  ⟨0xF9FA, 0xF9FA, 1, 0x72C0⟩, ⟨0xF9FB, 0xF9FB, 1, 0x7099⟩, ⟨0xF9FC, 0xF9FC, 1, 0x8B58⟩,
  ⟨0xF9FD, 0xF9FD, 1, 0x4EC0⟩, ⟨0xF9FE, 0xF9FE, 1, 0x8336⟩, ⟨0xF9FF, 0xF9FF, 1, 0x523A⟩,
  ⟨0xFA00, 0xFA00, 1, 0x5207⟩, ⟨0xFA01, 0xFA01, 1, 0x5EA6⟩, ⟨0xFA02, 0xFA02, 1, 0x62D3⟩,
  ⟨0xFA03, 0xFA03, 1, 0x7CD6⟩, ⟨0xFA04, 0xFA04, 1, 0x5B85⟩, ⟨0xFA05, 0xFA05, 1, 0x6D1E⟩,
  ⟨0xFA06, 0xFA06, 1, 0x66B4⟩, ⟨0xFA07, 0xFA07, 1, 0x8F3B⟩, ⟨0xFA08, 0xFA08, 1, 0x884C⟩,
  ⟨0xFA09, 0xFA09, 1, 0x964D⟩, ⟨0xFA0A, 0xFA0A, 1, 0x898B⟩, ⟨0xFA0B, 0xFA0B, 1, 0x5ED3⟩,
  ⟨0xFA0C, 0xFA0C, 1, 0x5140⟩, ⟨0xFA0D, 0xFA0D, 1, 0x55C0⟩, ⟨0xFA10, 0xFA10, 1, 0x585A⟩,
  ⟨0xFA12, 0xFA12, 1, 0x6674⟩, ⟨0xFA15, 0xFA15, 1, 0x51DE⟩, ⟨0xFA16, 0xFA16, 1, 0x732A⟩,
  ⟨0xFA17, 0xFA17, 1, 0x76CA⟩, ⟨0xFA18, 0xFA18, 1, 0x793C⟩, ⟨0xFA19, 0xFA19, 1, 0x795E⟩,
  ⟨0xFA1A, 0xFA1A, 1, 0x7965⟩, ⟨0xFA1B, 0xFA1B, 1, 0x798F⟩, ⟨0xFA1C, 0xFA1C, 1, 0x9756⟩,
  ⟨0xFA1D, 0xFA1D, 1, 0x7CBE⟩, ⟨0xFA1E, 0xFA1E, 1, 0x7FBD⟩, ⟨0xFA20, 0xFA20, 1, 0x8612⟩,
  ⟨0xFA22, 0xFA22, 1, 0x8AF8⟩, ⟨0xFA25, 0xFA25, 1, 0x9038⟩, ⟨0xFA26, 0xFA26, 1, 0x90FD⟩,
  ⟨0xFA2A, 0xFA2A, 1, 0x98EF⟩, ⟨0xFA2B, 0xFA2B, 1, 0x98FC⟩, ⟨0xFA2C, 0xFA2C, 1, 0x9928⟩,
  ⟨0xFA2D, 0xFA2D, 1, 0x9DB4⟩, ⟨0xFA2E, 0xFA2E, 1, 0x90DE⟩, ⟨0xFA2F, 0xFA2F, 1, 0x96B7⟩,
  ⟨0xFA30, 0xFA30, 1, 0x4FAE⟩, ⟨0xFA31, 0xFA31, 1, 0x50E7⟩, ⟨0xFA32, 0xFA32, 1, 0x514D⟩,
  ⟨0xFA33, 0xFA33, 1, 0x52C9⟩, ⟨0xFA34, 0xFA34, 1, 0x52E4⟩, ⟨0xFA35, 0xFA35, 1, 0x5351⟩,
  ⟨0xFA36, 0xFA36, 1, 0x559D⟩, ⟨0xFA37, 0xFA37, 1, 0x5606⟩, ⟨0xFA38, 0xFA38, 1, 0x5668⟩,
  ⟨0xFA39, 0xFA39, 1, 0x5840⟩, ⟨0xFA3A, 0xFA3A, 1, 0x58A8⟩, ⟨0xFA3B, 0xFA3B, 1, 0x5C64⟩,
  ⟨0xFA3C, 0xFA3C, 1, 0x5C6E⟩, ⟨0xFA3D, 0xFA3D, 1, 0x6094⟩, ⟨0xFA3E, 0xFA3E, 1, 0x6168⟩,
  ⟨0xFA3F, 0xFA3F, 1, 0x618E⟩, ⟨0xFA40, 0xFA40, 1, 0x61F2⟩, ⟨0xFA41, 0xFA41, 1, 0x654F⟩,
  ⟨0xFA42, 0xFA42, 1, 0x65E2⟩, ⟨0xFA43, 0xFA43, 1, 0x6691⟩, ⟨0xFA44, 0xFA44, 1, 0x6885⟩,
  ⟨0xFA45, 0xFA45, 1, 0x6D77⟩, ⟨0xFA46, 0xFA46, 1, 0x6E1A⟩, ⟨0xFA47, 0xFA47, 1, 0x6F22⟩,
  ⟨0xFA48, 0xFA48, 1, 0x716E⟩, ⟨0xFA49, 0xFA49, 1, 0x722B⟩, ⟨0xFA4A, 0xFA4A, 1, 0x7422⟩,
  ⟨0xFA4B, 0xFA4B, 1, 0x7891⟩, ⟨0xFA4C, 0xFA4C, 1, 0x793E⟩, ⟨0xFA4D, 0xFA4D, 1, 0x7949⟩,
  ⟨0xFA4E, 0xFA4E, 1, 0x7948⟩, ⟨0xFA4F, 0xFA4F, 1, 0x7950⟩, ⟨0xFA50, 0xFA50, 1, 0x7956⟩,
  ⟨0xFA51, 0xFA51, 1, 0x795D⟩, ⟨0xFA52, 0xFA53, 1, 0x798D⟩, ⟨0xFA54, 0xFA54, 1, 0x7A40⟩,
  ⟨0xFA55, 0xFA55, 1, 0x7A81⟩, ⟨0xFA56, 0xFA56, 1, 0x7BC0⟩, ⟨0xFA57, 0xFA57, 1, 0x7DF4⟩,
  ⟨0xFA58, 0xFA58, 1, 0x7E09⟩, ⟨0xFA59, 0xFA59, 1, 0x7E41⟩, ⟨0xFA5A, 0xFA5A, 1, 0x7F72⟩,
  ⟨0xFA5B, 0xFA5B, 1, 0x8005⟩, ⟨0xFA5C, 0xFA5C, 1, 0x81ED⟩, ⟨0xFA5D, 0xFA5D, 1, 0x8279⟩,
  ⟨0xFA5E, 0xFA5E, 1, 0x8279⟩, ⟨0xFA5F, 0xFA5F, 1, 0x8457⟩, ⟨0xFA60, 0xFA60, 1, 0x8910⟩,
  ⟨0xFA61, 0xFA61, 1, 0x8996⟩, ⟨0xFA62, 0xFA62, 1, 0x8B01⟩, ⟨0xFA63, 0xFA63, 1, 0x8B39⟩,
  ⟨0xFA64, 0xFA64, 1, 0x8CD3⟩, ⟨0xFA65, 0xFA65, 1, 0x8D08⟩, ⟨0xFA66, 0xFA66, 1, 0x8FB6⟩,
  ⟨0xFA67, 0xFA67, 1, 0x9038⟩, ⟨0xFA68, 0xFA68, 1, 0x96E3⟩, ⟨0xFA69, 0xFA69, 1, 0x97FF⟩,
  ⟨0xFA6A, 0xFA6A, 1, 0x983B⟩, ⟨0xFA6B, 0xFA6B, 1, 0x6075⟩, ⟨0xFA6C, 0xFA6C, 1, 0x242EE⟩,
  ⟨0xFA6D, 0xFA6D, 1, 0x8218⟩, ⟨0xFA70, 0xFA70, 1, 0x4E26⟩, ⟨0xFA71, 0xFA71, 1, 0x51B5⟩,
  ⟨0xFA72, 0xFA72, 1, 0x5168⟩, ⟨0xFA73, 0xFA73, 1, 0x4F80⟩, ⟨0xFA74, 0xFA74, 1, 0x5145⟩,
  ⟨0xFA75, 0xFA75, 1, 0x5180⟩, ⟨0xFA76, 0xFA76, 1, 0x52C7⟩, ⟨0xFA77, 0xFA77, 1, 0x52FA⟩,
  ⟨0xFA78, 0xFA78, 1, 0x559D⟩, ⟨0xFA79, 0xFA79, 1, 0x5555⟩, ⟨0xFA7A, 0xFA7A, 1, 0x5599⟩,
  ⟨0xFA7B, 0xFA7B, 1, 0x55E2⟩, ⟨0xFA7C, 0xFA7C, 1, 0x585A⟩, ⟨0xFA7D, 0xFA7D, 1, 0x58B3⟩,
  ⟨0xFA7E, 0xFA7E, 1, 0x5944⟩, ⟨0xFA7F, 0xFA7F, 1, 0x5954⟩, ⟨0xFA80, 0xFA80, 1, 0x5A62⟩,
  ⟨0xFA81, 0xFA81, 1, 0x5B28⟩, ⟨0xFA82, 0xFA82, 1, 0x5ED2⟩, ⟨0xFA83, 0xFA83, 1, 0x5ED9⟩,
  ⟨0xFA84, 0xFA84, 1, 0x5F69⟩, ⟨0xFA85, 0xFA85, 1, 0x5FAD⟩, ⟨0xFA86, 0xFA86, 1, 0x60D8⟩,
  ⟨0xFA87, 0xFA87, 1, 0x614E⟩, ⟨0xFA88, 0xFA88, 1, 0x6108⟩, ⟨0xFA89, 0xFA89, 1, 0x618E⟩,
  ⟨0xFA8A, 0xFA8A, 1, 0x6160⟩, ⟨0xFA8B, 0xFA8B, 1, 0x61F2⟩, ⟨0xFA8C, 0xFA8C, 1, 0x6234⟩,
  ⟨0xFA8D, 0xFA8D, 1, 0x63C4⟩, ⟨0xFA8E, 0xFA8E, 1, 0x641C⟩, ⟨0xFA8F, 0xFA8F, 1, 0x6452⟩,
  ⟨0xFA90, 0xFA90, 1, 0x6556⟩, ⟨0xFA91, 0xFA91, 1, 0x6674⟩, ⟨0xFA92, 0xFA92, 1, 0x6717⟩,
  ⟨0xFA93, 0xFA93, 1, 0x671B⟩, ⟨0xFA94, 0xFA94, 1, 0x6756⟩, ⟨0xFA95, 0xFA95, 1, 0x6B79⟩,
  ⟨0xFA96, 0xFA96, 1, 0x6BBA⟩, ⟨0xFA97, 0xFA97, 1, 0x6D41⟩, ⟨0xFA98, 0xFA98, 1, 0x6EDB⟩,
  ⟨0xFA99, 0xFA99, 1, 0x6ECB⟩, ⟨0xFA9A, 0xFA9A, 1, 0x6F22⟩, ⟨0xFA9B, 0xFA9B, 1, 0x701E⟩,
  ⟨0xFA9C, 0xFA9C, 1, 0x716E⟩, ⟨0xFA9D, 0xFA9D, 1, 0x77A7⟩, ⟨0xFA9E, 0xFA9E, 1, 0x7235⟩,
  ⟨0xFA9F, 0xFA9F, 1, 0x72AF⟩, ⟨0xFAA0, 0xFAA0, 1, 0x732A⟩, ⟨0xFAA1, 0xFAA1, 1, 0x7471⟩,
  ⟨0xFAA2, 0xFAA2, 1, 0x7506⟩, ⟨0xFAA3, 0xFAA3, 1, 0x753B⟩, ⟨0xFAA4, 0xFAA4, 1, 0x761D⟩,
  ⟨0xFAA5, 0xFAA5, 1, 0x761F⟩, ⟨0xFAA6, 0xFAA6, 1, 0x76CA⟩, ⟨0xFAA7, 0xFAA7, 1, 0x76DB⟩,
  ⟨0xFAA8, 0xFAA8, 1, 0x76F4⟩, ⟨0xFAA9, 0xFAA9, 1, 0x774A⟩, ⟨0xFAAA, 0xFAAA, 1, 0x7740⟩,
  ⟨0xFAAB, 0xFAAB, 1, 0x78CC⟩, ⟨0xFAAC, 0xFAAC, 1, 0x7AB1⟩, ⟨0xFAAD, 0xFAAD, 1, 0x7BC0⟩,
  ⟨0xFAAE, 0xFAAE, 1, 0x7C7B⟩, ⟨0xFAAF, 0xFAAF, 1, 0x7D5B⟩, ⟨0xFAB0, 0xFAB0, 1, 0x7DF4⟩,
  ⟨0xFAB1, 0xFAB1, 1, 0x7F3E⟩, ⟨0xFAB2, 0xFAB2, 1, 0x8005⟩, ⟨0xFAB3, 0xFAB3, 1, 0x8352⟩,
  ⟨0xFAB4, 0xFAB4, 1, 0x83EF⟩, ⟨0xFAB5, 0xFAB5, 1, 0x8779⟩, ⟨0xFAB6, 0xFAB6, 1, 0x8941⟩,
  ⟨0xFAB7, 0xFAB7, 1, 0x8986⟩, ⟨0xFAB8, 0xFAB8, 1, 0x8996⟩, ⟨0xFAB9, 0xFAB9, 1, 0x8ABF⟩,
  ⟨0xFABA, 0xFABA, 1, 0x8AF8⟩, ⟨0xFABB, 0xFABB, 1, 0x8ACB⟩, ⟨0xFABC, 0xFABC, 1, 0x8B01⟩,
  ⟨0xFABD, 0xFABD, 1, 0x8AFE⟩, ⟨0xFABE, 0xFABE, 1, 0x8AED⟩, ⟨0xFABF, 0xFABF, 1, 0x8B39⟩,
  ⟨0xFAC0, 0xFAC0, 1, 0x8B8A⟩, ⟨0xFAC1, 0xFAC1, 1, 0x8D08⟩, ⟨0xFAC2, 0xFAC2, 1, 0x8F38⟩,
  ⟨0xFAC3, 0xFAC3, 1, 0x9072⟩, ⟨0xFAC4, 0xFAC4, 1, 0x9199⟩, ⟨0xFAC5, 0xFAC5, 1, 0x9276⟩,
  ⟨0xFAC6, 0xFAC6, 1, 0x967C⟩, ⟨0xFAC7, 0xFAC7, 1, 0x96E3⟩, ⟨0xFAC8, 0xFAC8, 1, 0x9756⟩,
  ⟨0xFAC9, 0xFAC9, 1, 0x97DB⟩, ⟨0xFACA, 0xFACA, 1, 0x97FF⟩, ⟨0xFACB, 0xFACB, 1, 0x980B⟩,
  ⟨0xFACC, 0xFACC, 1, 0x983B⟩, ⟨0xFACD, 0xFACD, 1, 0x9B12⟩, ⟨0xFACE, 0xFACE, 1, 0x9F9C⟩,
  ⟨0xFACF, 0xFACF, 1, 0x2284A⟩, ⟨0xFAD0, 0xFAD0, 1, 0x22844⟩, ⟨0xFAD1, 0xFAD1, 1, 0x233D5⟩,
  ⟨0xFAD2, 0xFAD2, 1, 0x3B9D⟩, ⟨0xFAD3, 0xFAD3, 1, 0x4018⟩, ⟨0xFAD4, 0xFAD4, 1, 0x4039⟩,
  ⟨0xFAD5, 0xFAD5, 1, 0x25249⟩, ⟨0xFAD6, 0xFAD6, 1, 0x25CD0⟩, ⟨0xFAD7, 0xFAD7, 1, 0x27ED3⟩,
  ⟨0xFAD8, 0xFAD8, 1, 0x9F43⟩, ⟨0xFAD9, 0xFAD9, 1, 0x9F8E⟩]

/-- The code points from U+FB00 to U+FFFF that map to one character. -/
def presentationRuns : List Run := [
  ⟨0xFB20, 0xFB20, 1, 0x5E2⟩, ⟨0xFB21, 0xFB21, 1, 0x5D0⟩, ⟨0xFB22, 0xFB23, 1, 0x5D3⟩,
  ⟨0xFB24, 0xFB26, 1, 0x5DB⟩, ⟨0xFB27, 0xFB27, 1, 0x5E8⟩, ⟨0xFB28, 0xFB28, 1, 0x5EA⟩,
  ⟨0xFB29, 0xFB29, 1, 0x2B⟩, ⟨0xFB50, 0xFB50, 1, 0x671⟩, ⟨0xFB51, 0xFB51, 1, 0x671⟩,
  ⟨0xFB52, 0xFB52, 1, 0x67B⟩, ⟨0xFB53, 0xFB53, 1, 0x67B⟩, ⟨0xFB54, 0xFB54, 1, 0x67B⟩,
  ⟨0xFB55, 0xFB55, 1, 0x67B⟩, ⟨0xFB56, 0xFB56, 1, 0x67E⟩, ⟨0xFB57, 0xFB57, 1, 0x67E⟩,
  ⟨0xFB58, 0xFB58, 1, 0x67E⟩, ⟨0xFB59, 0xFB59, 1, 0x67E⟩, ⟨0xFB5A, 0xFB5A, 1, 0x680⟩,
  ⟨0xFB5B, 0xFB5B, 1, 0x680⟩, ⟨0xFB5C, 0xFB5C, 1, 0x680⟩, ⟨0xFB5D, 0xFB5D, 1, 0x680⟩,
  ⟨0xFB5E, 0xFB5E, 1, 0x67A⟩, ⟨0xFB5F, 0xFB5F, 1, 0x67A⟩, ⟨0xFB60, 0xFB60, 1, 0x67A⟩,
  ⟨0xFB61, 0xFB61, 1, 0x67A⟩, ⟨0xFB62, 0xFB62, 1, 0x67F⟩, ⟨0xFB63, 0xFB63, 1, 0x67F⟩,
  ⟨0xFB64, 0xFB64, 1, 0x67F⟩, ⟨0xFB65, 0xFB65, 1, 0x67F⟩, ⟨0xFB66, 0xFB66, 1, 0x679⟩,
  ⟨0xFB67, 0xFB67, 1, 0x679⟩, ⟨0xFB68, 0xFB68, 1, 0x679⟩, ⟨0xFB69, 0xFB69, 1, 0x679⟩,
  ⟨0xFB6A, 0xFB6A, 1, 0x6A4⟩, ⟨0xFB6B, 0xFB6B, 1, 0x6A4⟩, ⟨0xFB6C, 0xFB6C, 1, 0x6A4⟩,
  ⟨0xFB6D, 0xFB6D, 1, 0x6A4⟩, ⟨0xFB6E, 0xFB6E, 1, 0x6A6⟩, ⟨0xFB6F, 0xFB6F, 1, 0x6A6⟩,
  ⟨0xFB70, 0xFB70, 1, 0x6A6⟩, ⟨0xFB71, 0xFB71, 1, 0x6A6⟩, ⟨0xFB72, 0xFB72, 1, 0x684⟩,
  ⟨0xFB73, 0xFB73, 1, 0x684⟩, ⟨0xFB74, 0xFB74, 1, 0x684⟩, ⟨0xFB75, 0xFB75, 1, 0x684⟩,
  ⟨0xFB76, 0xFB76, 1, 0x683⟩, ⟨0xFB77, 0xFB77, 1, 0x683⟩, ⟨0xFB78, 0xFB78, 1, 0x683⟩,
  ⟨0xFB79, 0xFB79, 1, 0x683⟩, ⟨0xFB7A, 0xFB7A, 1, 0x686⟩, ⟨0xFB7B, 0xFB7B, 1, 0x686⟩,
  ⟨0xFB7C, 0xFB7C, 1, 0x686⟩, ⟨0xFB7D, 0xFB7E, 1, 0x686⟩, ⟨0xFB7F, 0xFB7F, 1, 0x687⟩,
  ⟨0xFB80, 0xFB80, 1, 0x687⟩, ⟨0xFB81, 0xFB81, 1, 0x687⟩, ⟨0xFB82, 0xFB82, 1, 0x68D⟩,
  ⟨0xFB83, 0xFB83, 1, 0x68D⟩, ⟨0xFB84, 0xFB84, 1, 0x68C⟩, ⟨0xFB85, 0xFB85, 1, 0x68C⟩,
  ⟨0xFB86, 0xFB86, 1, 0x68E⟩, ⟨0xFB87, 0xFB87, 1, 0x68E⟩, ⟨0xFB88, 0xFB88, 1, 0x688⟩,
  ⟨0xFB89, 0xFB89, 1, 0x688⟩, ⟨0xFB8A, 0xFB8A, 1, 0x698⟩, ⟨0xFB8B, 0xFB8B, 1, 0x698⟩,
  ⟨0xFB8C, 0xFB8C, 1, 0x691⟩, ⟨0xFB8D, 0xFB8D, 1, 0x691⟩, ⟨0xFB8E, 0xFB8E, 1, 0x6A9⟩,
  ⟨0xFB8F, 0xFB8F, 1, 0x6A9⟩, ⟨0xFB90, 0xFB90, 1, 0x6A9⟩, ⟨0xFB91, 0xFB91, 1, 0x6A9⟩,
  ⟨0xFB92, 0xFB92, 1, 0x6AF⟩, ⟨0xFB93, 0xFB93, 1, 0x6AF⟩, ⟨0xFB94, 0xFB94, 1, 0x6AF⟩,
  ⟨0xFB95, 0xFB95, 1, 0x6AF⟩, ⟨0xFB96, 0xFB96, 1, 0x6B3⟩, ⟨0xFB97, 0xFB97, 1, 0x6B3⟩,
  ⟨0xFB98, 0xFB98, 1, 0x6B3⟩, ⟨0xFB99, 0xFB99, 1, 0x6B3⟩, ⟨0xFB9A, 0xFB9A, 1, 0x6B1⟩,
  ⟨0xFB9B, 0xFB9B, 1, 0x6B1⟩, ⟨0xFB9C, 0xFB9C, 1, 0x6B1⟩, ⟨0xFB9D, 0xFB9D, 1, 0x6B1⟩,
  ⟨0xFB9E, 0xFB9E, 1, 0x6BA⟩, ⟨0xFB9F, 0xFBA0, 1, 0x6BA⟩, ⟨0xFBA1, 0xFBA1, 1, 0x6BB⟩,
  ⟨0xFBA2, 0xFBA2, 1, 0x6BB⟩, ⟨0xFBA3, 0xFBA3, 1, 0x6BB⟩, ⟨0xFBA4, 0xFBA4, 1, 0x6C0⟩,
  ⟨0xFBA5, 0xFBA6, 1, 0x6C0⟩, ⟨0xFBA7, 0xFBA7, 1, 0x6C1⟩, ⟨0xFBA8, 0xFBA8, 1, 0x6C1⟩,
  ⟨0xFBA9, 0xFBA9, 1, 0x6C1⟩, ⟨0xFBAA, 0xFBAA, 1, 0x6BE⟩, ⟨0xFBAB, 0xFBAB, 1, 0x6BE⟩,
  ⟨0xFBAC, 0xFBAC, 1, 0x6BE⟩, ⟨0xFBAD, 0xFBAD, 1, 0x6BE⟩, ⟨0xFBAE, 0xFBAE, 1, 0x6D2⟩,
  ⟨0xFBAF, 0xFBB0, 1, 0x6D2⟩, ⟨0xFBB1, 0xFBB1, 1, 0x6D3⟩, ⟨0xFBD3, 0xFBD3, 1, 0x6AD⟩,
  ⟨0xFBD4, 0xFBD4, 1, 0x6AD⟩, ⟨0xFBD5, 0xFBD5, 1, 0x6AD⟩, ⟨0xFBD6, 0xFBD6, 1, 0x6AD⟩,
  ⟨0xFBD7, 0xFBD7, 1, 0x6C7⟩, ⟨0xFBD8, 0xFBD8, 1, 0x6C7⟩, ⟨0xFBD9, 0xFBD9, 1, 0x6C6⟩,
  ⟨0xFBDA, 0xFBDA, 1, 0x6C6⟩, ⟨0xFBDB, 0xFBDB, 1, 0x6C8⟩, ⟨0xFBDC, 0xFBDC, 1, 0x6C8⟩,
  ⟨0xFBDE, 0xFBDE, 1, 0x6CB⟩, ⟨0xFBDF, 0xFBDF, 1, 0x6CB⟩, ⟨0xFBE0, 0xFBE0, 1, 0x6C5⟩,
  ⟨0xFBE1, 0xFBE1, 1, 0x6C5⟩, ⟨0xFBE2, 0xFBE2, 1, 0x6C9⟩, ⟨0xFBE3, 0xFBE3, 1, 0x6C9⟩,
  ⟨0xFBE4, 0xFBE4, 1, 0x6D0⟩, ⟨0xFBE5, 0xFBE5, 1, 0x6D0⟩, ⟨0xFBE6, 0xFBE6, 1, 0x6D0⟩,
  ⟨0xFBE7, 0xFBE7, 1, 0x6D0⟩, ⟨0xFBE8, 0xFBE8, 1, 0x649⟩, ⟨0xFBE9, 0xFBE9, 1, 0x649⟩,
  ⟨0xFBFC, 0xFBFC, 1, 0x6CC⟩, ⟨0xFBFD, 0xFBFD, 1, 0x6CC⟩, ⟨0xFBFE, 0xFBFE, 1, 0x6CC⟩,
  ⟨0xFBFF, 0xFBFF, 1, 0x6CC⟩, ⟨0xFE10, 0xFE10, 1, 0x2C⟩, ⟨0xFE11, 0xFE11, 1, 0x3001⟩,
  ⟨0xFE13, 0xFE14, 1, 0x3A⟩, ⟨0xFE15, 0xFE15, 1, 0x21⟩, ⟨0xFE16, 0xFE16, 1, 0x3F⟩,
  ⟨0xFE17, 0xFE18, 1, 0x3016⟩, ⟨0xFE31, 0xFE31, 1, 0x2014⟩, ⟨0xFE32, 0xFE32, 1, 0x2013⟩,
  ⟨0xFE33, 0xFE33, 1, 0x5F⟩, ⟨0xFE34, 0xFE34, 1, 0x5F⟩, ⟨0xFE35, 0xFE36, 1, 0x28⟩,
  ⟨0xFE37, 0xFE37, 1, 0x7B⟩, ⟨0xFE38, 0xFE38, 1, 0x7D⟩, ⟨0xFE39, 0xFE3A, 1, 0x3014⟩,
  ⟨0xFE3B, 0xFE3C, 1, 0x3010⟩, ⟨0xFE3D, 0xFE3E, 1, 0x300A⟩, ⟨0xFE3F, 0xFE40, 1, 0x3008⟩,
  ⟨0xFE41, 0xFE44, 1, 0x300C⟩, ⟨0xFE47, 0xFE47, 1, 0x5B⟩, ⟨0xFE48, 0xFE48, 1, 0x5D⟩,
  ⟨0xFE4D, 0xFE4D, 1, 0x5F⟩, ⟨0xFE4E, 0xFE4E, 1, 0x5F⟩, ⟨0xFE4F, 0xFE4F, 1, 0x5F⟩,
  ⟨0xFE50, 0xFE50, 1, 0x2C⟩, ⟨0xFE51, 0xFE51, 1, 0x3001⟩, ⟨0xFE54, 0xFE54, 1, 0x3B⟩,
  ⟨0xFE55, 0xFE55, 1, 0x3A⟩, ⟨0xFE56, 0xFE56, 1, 0x3F⟩, ⟨0xFE57, 0xFE57, 1, 0x21⟩,
  ⟨0xFE58, 0xFE58, 1, 0x2014⟩, ⟨0xFE59, 0xFE5A, 1, 0x28⟩, ⟨0xFE5B, 0xFE5B, 1, 0x7B⟩,
  ⟨0xFE5C, 0xFE5C, 1, 0x7D⟩, ⟨0xFE5D, 0xFE5E, 1, 0x3014⟩, ⟨0xFE5F, 0xFE5F, 1, 0x23⟩,
  ⟨0xFE60, 0xFE60, 1, 0x26⟩, ⟨0xFE61, 0xFE62, 1, 0x2A⟩, ⟨0xFE63, 0xFE63, 1, 0x2D⟩,
  ⟨0xFE64, 0xFE64, 1, 0x3C⟩, ⟨0xFE65, 0xFE65, 1, 0x3E⟩, ⟨0xFE66, 0xFE66, 1, 0x3D⟩,
  ⟨0xFE68, 0xFE68, 1, 0x5C⟩, ⟨0xFE69, 0xFE6A, 1, 0x24⟩, ⟨0xFE6B, 0xFE6B, 1, 0x40⟩,
  ⟨0xFE80, 0xFE81, 1, 0x621⟩, ⟨0xFE82, 0xFE83, 1, 0x622⟩, ⟨0xFE84, 0xFE85, 1, 0x623⟩,
  ⟨0xFE86, 0xFE87, 1, 0x624⟩, ⟨0xFE88, 0xFE89, 1, 0x625⟩, ⟨0xFE8A, 0xFE8A, 1, 0x626⟩,
  ⟨0xFE8B, 0xFE8B, 1, 0x626⟩, ⟨0xFE8C, 0xFE8D, 1, 0x626⟩, ⟨0xFE8E, 0xFE8F, 1, 0x627⟩,
  ⟨0xFE90, 0xFE90, 1, 0x628⟩, ⟨0xFE91, 0xFE91, 1, 0x628⟩, ⟨0xFE92, 0xFE93, 1, 0x628⟩,
  ⟨0xFE94, 0xFE95, 1, 0x629⟩, ⟨0xFE96, 0xFE96, 1, 0x62A⟩, ⟨0xFE97, 0xFE97, 1, 0x62A⟩,
  ⟨0xFE98, 0xFE99, 1, 0x62A⟩, ⟨0xFE9A, 0xFE9A, 1, 0x62B⟩, ⟨0xFE9B, 0xFE9B, 1, 0x62B⟩,
  ⟨0xFE9C, 0xFE9D, 1, 0x62B⟩, ⟨0xFE9E, 0xFE9E, 1, 0x62C⟩, ⟨0xFE9F, 0xFE9F, 1, 0x62C⟩,
  ⟨0xFEA0, 0xFEA1, 1, 0x62C⟩, ⟨0xFEA2, 0xFEA2, 1, 0x62D⟩, ⟨0xFEA3, 0xFEA3, 1, 0x62D⟩,
  ⟨0xFEA4, 0xFEA5, 1, 0x62D⟩, ⟨0xFEA6, 0xFEA6, 1, 0x62E⟩, ⟨0xFEA7, 0xFEA7, 1, 0x62E⟩,
  ⟨0xFEA8, 0xFEA9, 1, 0x62E⟩, ⟨0xFEAA, 0xFEAB, 1, 0x62F⟩, ⟨0xFEAC, 0xFEAD, 1, 0x630⟩,
  ⟨0xFEAE, 0xFEAF, 1, 0x631⟩, ⟨0xFEB0, 0xFEB1, 1, 0x632⟩, ⟨0xFEB2, 0xFEB2, 1, 0x633⟩,
  ⟨0xFEB3, 0xFEB3, 1, 0x633⟩, ⟨0xFEB4, 0xFEB5, 1, 0x633⟩, ⟨0xFEB6, 0xFEB6, 1, 0x634⟩,
  ⟨0xFEB7, 0xFEB7, 1, 0x634⟩, ⟨0xFEB8, 0xFEB9, 1, 0x634⟩, ⟨0xFEBA, 0xFEBA, 1, 0x635⟩,
  ⟨0xFEBB, 0xFEBB, 1, 0x635⟩, ⟨0xFEBC, 0xFEBD, 1, 0x635⟩, ⟨0xFEBE, 0xFEBE, 1, 0x636⟩,
  ⟨0xFEBF, 0xFEBF, 1, 0x636⟩, ⟨0xFEC0, 0xFEC1, 1, 0x636⟩, ⟨0xFEC2, 0xFEC2, 1, 0x637⟩,
  ⟨0xFEC3, 0xFEC3, 1, 0x637⟩, ⟨0xFEC4, 0xFEC5, 1, 0x637⟩, ⟨0xFEC6, 0xFEC6, 1, 0x638⟩,
  ⟨0xFEC7, 0xFEC7, 1, 0x638⟩, ⟨0xFEC8, 0xFEC9, 1, 0x638⟩, ⟨0xFECA, 0xFECA, 1, 0x639⟩,
  ⟨0xFECB, 0xFECB, 1, 0x639⟩, ⟨0xFECC, 0xFECD, 1, 0x639⟩, ⟨0xFECE, 0xFECE, 1, 0x63A⟩,
  ⟨0xFECF, 0xFECF, 1, 0x63A⟩, ⟨0xFED0, 0xFED0, 1, 0x63A⟩, ⟨0xFED1, 0xFED1, 1, 0x641⟩,
  ⟨0xFED2, 0xFED2, 1, 0x641⟩, ⟨0xFED3, 0xFED3, 1, 0x641⟩, ⟨0xFED4, 0xFED5, 1, 0x641⟩,
  ⟨0xFED6, 0xFED6, 1, 0x642⟩, ⟨0xFED7, 0xFED7, 1, 0x642⟩, ⟨0xFED8, 0xFED9, 1, 0x642⟩,
  ⟨0xFEDA, 0xFEDA, 1, 0x643⟩, ⟨0xFEDB, 0xFEDB, 1, 0x643⟩, ⟨0xFEDC, 0xFEDD, 1, 0x643⟩,
  ⟨0xFEDE, 0xFEDE, 1, 0x644⟩, ⟨0xFEDF, 0xFEDF, 1, 0x644⟩, ⟨0xFEE0, 0xFEE1, 1, 0x644⟩,
  ⟨0xFEE2, 0xFEE2, 1, 0x645⟩, ⟨0xFEE3, 0xFEE3, 1, 0x645⟩, ⟨0xFEE4, 0xFEE5, 1, 0x645⟩,
  ⟨0xFEE6, 0xFEE6, 1, 0x646⟩, ⟨0xFEE7, 0xFEE7, 1, 0x646⟩, ⟨0xFEE8, 0xFEE9, 1, 0x646⟩,
  ⟨0xFEEA, 0xFEEA, 1, 0x647⟩, ⟨0xFEEB, 0xFEEB, 1, 0x647⟩, ⟨0xFEEC, 0xFEED, 1, 0x647⟩,
  ⟨0xFEEE, 0xFEEF, 1, 0x648⟩, ⟨0xFEF0, 0xFEF1, 1, 0x649⟩, ⟨0xFEF2, 0xFEF2, 1, 0x64A⟩,
  ⟨0xFEF3, 0xFEF3, 1, 0x64A⟩, ⟨0xFEF4, 0xFEF4, 1, 0x64A⟩, ⟨0xFF01, 0xFF20, 1, 0x21⟩,
  ⟨0xFF21, 0xFF3A, 1, 0x61⟩, ⟨0xFF3B, 0xFF5E, 1, 0x5B⟩, ⟨0xFF5F, 0xFF60, 1, 0x2985⟩,
  ⟨0xFF61, 0xFF61, 1, 0x2E⟩, ⟨0xFF62, 0xFF63, 1, 0x300C⟩, ⟨0xFF64, 0xFF64, 1, 0x3001⟩,
  ⟨0xFF65, 0xFF65, 1, 0x30FB⟩, ⟨0xFF66, 0xFF66, 1, 0x30F2⟩, ⟨0xFF67, 0xFF67, 1, 0x30A1⟩,
  ⟨0xFF68, 0xFF68, 1, 0x30A3⟩, ⟨0xFF69, 0xFF69, 1, 0x30A5⟩, ⟨0xFF6A, 0xFF6A, 1, 0x30A7⟩,
  ⟨0xFF6B, 0xFF6B, 1, 0x30A9⟩, ⟨0xFF6C, 0xFF6C, 1, 0x30E3⟩, ⟨0xFF6D, 0xFF6D, 1, 0x30E5⟩,
  ⟨0xFF6E, 0xFF6E, 1, 0x30E7⟩, ⟨0xFF6F, 0xFF6F, 1, 0x30C3⟩, ⟨0xFF70, 0xFF70, 1, 0x30FC⟩,
  ⟨0xFF71, 0xFF71, 1, 0x30A2⟩, ⟨0xFF72, 0xFF72, 1, 0x30A4⟩, ⟨0xFF73, 0xFF73, 1, 0x30A6⟩,
  ⟨0xFF74, 0xFF74, 1, 0x30A8⟩, ⟨0xFF75, 0xFF76, 1, 0x30AA⟩, ⟨0xFF77, 0xFF77, 1, 0x30AD⟩,
  ⟨0xFF78, 0xFF78, 1, 0x30AF⟩, ⟨0xFF79, 0xFF79, 1, 0x30B1⟩, ⟨0xFF7A, 0xFF7A, 1, 0x30B3⟩,
  ⟨0xFF7B, 0xFF7B, 1, 0x30B5⟩, ⟨0xFF7C, 0xFF7C, 1, 0x30B7⟩, ⟨0xFF7D, 0xFF7D, 1, 0x30B9⟩,
  ⟨0xFF7E, 0xFF7E, 1, 0x30BB⟩, ⟨0xFF7F, 0xFF7F, 1, 0x30BD⟩, ⟨0xFF80, 0xFF80, 1, 0x30BF⟩,
  ⟨0xFF81, 0xFF81, 1, 0x30C1⟩, ⟨0xFF82, 0xFF82, 1, 0x30C4⟩, ⟨0xFF83, 0xFF83, 1, 0x30C6⟩,
  ⟨0xFF84, 0xFF84, 1, 0x30C8⟩, ⟨0xFF85, 0xFF8A, 1, 0x30CA⟩, ⟨0xFF8B, 0xFF8B, 1, 0x30D2⟩,
  ⟨0xFF8C, 0xFF8C, 1, 0x30D5⟩, ⟨0xFF8D, 0xFF8D, 1, 0x30D8⟩, ⟨0xFF8E, 0xFF8E, 1, 0x30DB⟩,
  ⟨0xFF8F, 0xFF93, 1, 0x30DE⟩, ⟨0xFF94, 0xFF94, 1, 0x30E4⟩, ⟨0xFF95, 0xFF95, 1, 0x30E6⟩,
  ⟨0xFF96, 0xFF9B, 1, 0x30E8⟩, ⟨0xFF9C, 0xFF9C, 1, 0x30EF⟩, ⟨0xFF9D, 0xFF9D, 1, 0x30F3⟩,
  ⟨0xFF9E, 0xFF9F, 1, 0x3099⟩, ⟨0xFFA1, 0xFFA2, 1, 0x1100⟩, ⟨0xFFA3, 0xFFA3, 1, 0x11AA⟩,
  ⟨0xFFA4, 0xFFA4, 1, 0x1102⟩, ⟨0xFFA5, 0xFFA6, 1, 0x11AC⟩, ⟨0xFFA7, 0xFFA9, 1, 0x1103⟩,
  ⟨0xFFAA, 0xFFAF, 1, 0x11B0⟩, ⟨0xFFB0, 0xFFB0, 1, 0x111A⟩, ⟨0xFFB1, 0xFFB3, 1, 0x1106⟩,
  ⟨0xFFB4, 0xFFB4, 1, 0x1121⟩, ⟨0xFFB5, 0xFFBE, 1, 0x1109⟩, ⟨0xFFC2, 0xFFC7, 1, 0x1161⟩,
  ⟨0xFFCA, 0xFFCF, 1, 0x1167⟩, ⟨0xFFD2, 0xFFD7, 1, 0x116D⟩, ⟨0xFFDA, 0xFFDC, 1, 0x1173⟩,
  ⟨0xFFE0, 0xFFE1, 1, 0xA2⟩, ⟨0xFFE2, 0xFFE2, 1, 0xAC⟩, ⟨0xFFE4, 0xFFE4, 1, 0xA6⟩,
  ⟨0xFFE5, 0xFFE5, 1, 0xA5⟩, ⟨0xFFE6, 0xFFE6, 1, 0x20A9⟩, ⟨0xFFE8, 0xFFE8, 1, 0x2502⟩,
  ⟨0xFFE9, 0xFFEC, 1, 0x2190⟩, ⟨0xFFED, 0xFFED, 1, 0x25A0⟩, ⟨0xFFEE, 0xFFEE, 1, 0x25CB⟩]

/-- The code points from U+3000 to U+FAFF that map to several characters. -/
def ideographSequences : List (Nat × List Nat) := [
  (0x309B, [0x20, 0x3099]), (0x309C, [0x20, 0x309A]), (0x309F, [0x3088, 0x308A]),
  (0x30FF, [0x30B3, 0x30C8]), (0x3200, [0x28, 0x1100, 0x29]), (0x3201, [0x28, 0x1102, 0x29]),
  (0x3202, [0x28, 0x1103, 0x29]), (0x3203, [0x28, 0x1105, 0x29]), (0x3204, [0x28, 0x1106, 0x29]),
  (0x3205, [0x28, 0x1107, 0x29]), (0x3206, [0x28, 0x1109, 0x29]), (0x3207, [0x28, 0x110B, 0x29]),
  (0x3208, [0x28, 0x110C, 0x29]), (0x3209, [0x28, 0x110E, 0x29]), (0x320A, [0x28, 0x110F, 0x29]),
  (0x320B, [0x28, 0x1110, 0x29]), (0x320C, [0x28, 0x1111, 0x29]), (0x320D, [0x28, 0x1112, 0x29]),
  (0x320E, [0x28, 0xAC00, 0x29]), (0x320F, [0x28, 0xB098, 0x29]), (0x3210, [0x28, 0xB2E4, 0x29]),
  (0x3211, [0x28, 0xB77C, 0x29]), (0x3212, [0x28, 0xB9C8, 0x29]), (0x3213, [0x28, 0xBC14, 0x29]),
  (0x3214, [0x28, 0xC0AC, 0x29]), (0x3215, [0x28, 0xC544, 0x29]), (0x3216, [0x28, 0xC790, 0x29]),
  (0x3217, [0x28, 0xCC28, 0x29]), (0x3218, [0x28, 0xCE74, 0x29]), (0x3219, [0x28, 0xD0C0, 0x29]),
  (0x321A, [0x28, 0xD30C, 0x29]), (0x321B, [0x28, 0xD558, 0x29]), (0x321C, [0x28, 0xC8FC, 0x29]),
  (0x321D, [0x28, 0xC624, 0xC804, 0x29]), (0x321E, [0x28, 0xC624, 0xD6C4, 0x29]),
  (0x3220, [0x28, 0x4E00, 0x29]), (0x3221, [0x28, 0x4E8C, 0x29]), (0x3222, [0x28, 0x4E09, 0x29]),
  (0x3223, [0x28, 0x56DB, 0x29]), (0x3224, [0x28, 0x4E94, 0x29]), (0x3225, [0x28, 0x516D, 0x29]),
  (0x3226, [0x28, 0x4E03, 0x29]), (0x3227, [0x28, 0x516B, 0x29]), (0x3228, [0x28, 0x4E5D, 0x29]),
  (0x3229, [0x28, 0x5341, 0x29]), (0x322A, [0x28, 0x6708, 0x29]), (0x322B, [0x28, 0x706B, 0x29]),
  (0x322C, [0x28, 0x6C34, 0x29]), (0x322D, [0x28, 0x6728, 0x29]), (0x322E, [0x28, 0x91D1, 0x29]),
  (0x322F, [0x28, 0x571F, 0x29]), (0x3230, [0x28, 0x65E5, 0x29]), (0x3231, [0x28, 0x682A, 0x29]),
  (0x3232, [0x28, 0x6709, 0x29]), (0x3233, [0x28, 0x793E, 0x29]), (0x3234, [0x28, 0x540D, 0x29]),
  (0x3235, [0x28, 0x7279, 0x29]), (0x3236, [0x28, 0x8CA1, 0x29]), (0x3237, [0x28, 0x795D, 0x29]),
  (0x3238, [0x28, 0x52B4, 0x29]), (0x3239, [0x28, 0x4EE3, 0x29]), (0x323A, [0x28, 0x547C, 0x29]),
  (0x323B, [0x28, 0x5B66, 0x29]), (0x323C, [0x28, 0x76E3, 0x29]), (0x323D, [0x28, 0x4F01, 0x29]),
  (0x323E, [0x28, 0x8CC7, 0x29]), (0x323F, [0x28, 0x5354, 0x29]), (0x3240, [0x28, 0x796D, 0x29]),
  (0x3241, [0x28, 0x4F11, 0x29]), (0x3242, [0x28, 0x81EA, 0x29]), (0x3243, [0x28, 0x81F3, 0x29]),
  (0x3250, [0x70, 0x74, 0x65]), (0x3251, [0x32, 0x31]), (0x3252, [0x32, 0x32]),
  (0x3253, [0x32, 0x33]), (0x3254, [0x32, 0x34]), (0x3255, [0x32, 0x35]), (0x3256, [0x32, 0x36]),
  (0x3257, [0x32, 0x37]), (0x3258, [0x32, 0x38]), (0x3259, [0x32, 0x39]), (0x325A, [0x33, 0x30]),
  (0x325B, [0x33, 0x31]), (0x325C, [0x33, 0x32]), (0x325D, [0x33, 0x33]), (0x325E, [0x33, 0x34]),
  (0x325F, [0x33, 0x35]), (0x327C, [0xCC38, 0xACE0]), (0x327D, [0xC8FC, 0xC758]),
  (0x32B1, [0x33, 0x36]), (0x32B2, [0x33, 0x37]), (0x32B3, [0x33, 0x38]), (0x32B4, [0x33, 0x39]),
  (0x32B5, [0x34, 0x30]), (0x32B6, [0x34, 0x31]), (0x32B7, [0x34, 0x32]), (0x32B8, [0x34, 0x33]),
  (0x32B9, [0x34, 0x34]), (0x32BA, [0x34, 0x35]), (0x32BB, [0x34, 0x36]), (0x32BC, [0x34, 0x37]),
  (0x32BD, [0x34, 0x38]), (0x32BE, [0x34, 0x39]), (0x32BF, [0x35, 0x30]), (0x32C0, [0x31, 0x6708]),
  (0x32C1, [0x32, 0x6708]), (0x32C2, [0x33, 0x6708]), (0x32C3, [0x34, 0x6708]),
  (0x32C4, [0x35, 0x6708]), (0x32C5, [0x36, 0x6708]), (0x32C6, [0x37, 0x6708]),
  (0x32C7, [0x38, 0x6708]), (0x32C8, [0x39, 0x6708]), (0x32C9, [0x31, 0x30, 0x6708]),
  (0x32CA, [0x31, 0x31, 0x6708]), (0x32CB, [0x31, 0x32, 0x6708]), (0x32CC, [0x68, 0x67]),
  (0x32CD, [0x65, 0x72, 0x67]), (0x32CE, [0x65, 0x76]), (0x32CF, [0x6C, 0x74, 0x64]),
  (0x32FF, [0x4EE4, 0x548C]), (0x3300, [0x30A2, 0x30D1, 0x30FC, 0x30C8]),
  (0x3301, [0x30A2, 0x30EB, 0x30D5, 0x30A1]), (0x3302, [0x30A2, 0x30F3, 0x30DA, 0x30A2]),
  (0x3303, [0x30A2, 0x30FC, 0x30EB]), (0x3304, [0x30A4, 0x30CB, 0x30F3, 0x30B0]),
  (0x3305, [0x30A4, 0x30F3, 0x30C1]), (0x3306, [0x30A6, 0x30A9, 0x30F3]),
  (0x3307, [0x30A8, 0x30B9, 0x30AF, 0x30FC, 0x30C9]), (0x3308, [0x30A8, 0x30FC, 0x30AB, 0x30FC]),
  (0x3309, [0x30AA, 0x30F3, 0x30B9]), (0x330A, [0x30AA, 0x30FC, 0x30E0]),
  (0x330B, [0x30AB, 0x30A4, 0x30EA]), (0x330C, [0x30AB, 0x30E9, 0x30C3, 0x30C8]),
  (0x330D, [0x30AB, 0x30ED, 0x30EA, 0x30FC]), (0x330E, [0x30AC, 0x30ED, 0x30F3]),
  (0x330F, [0x30AC, 0x30F3, 0x30DE]), (0x3310, [0x30AE, 0x30AC]),
  (0x3311, [0x30AE, 0x30CB, 0x30FC]), (0x3312, [0x30AD, 0x30E5, 0x30EA, 0x30FC]),
  (0x3313, [0x30AE, 0x30EB, 0x30C0, 0x30FC]), (0x3314, [0x30AD, 0x30ED]),
  (0x3315, [0x30AD, 0x30ED, 0x30B0, 0x30E9, 0x30E0]),
  (0x3316, [0x30AD, 0x30ED, 0x30E1, 0x30FC, 0x30C8, 0x30EB]),
  (0x3317, [0x30AD, 0x30ED, 0x30EF, 0x30C3, 0x30C8]), (0x3318, [0x30B0, 0x30E9, 0x30E0]),
  (0x3319, [0x30B0, 0x30E9, 0x30E0, 0x30C8, 0x30F3]),
  (0x331A, [0x30AF, 0x30EB, 0x30BC, 0x30A4, 0x30ED]), (0x331B, [0x30AF, 0x30ED, 0x30FC, 0x30CD]),
  (0x331C, [0x30B1, 0x30FC, 0x30B9]), (0x331D, [0x30B3, 0x30EB, 0x30CA]),
  (0x331E, [0x30B3, 0x30FC, 0x30DD]), (0x331F, [0x30B5, 0x30A4, 0x30AF, 0x30EB]),
  (0x3320, [0x30B5, 0x30F3, 0x30C1, 0x30FC, 0x30E0]), (0x3321, [0x30B7, 0x30EA, 0x30F3, 0x30B0]),
  (0x3322, [0x30BB, 0x30F3, 0x30C1]), (0x3323, [0x30BB, 0x30F3, 0x30C8]),
  (0x3324, [0x30C0, 0x30FC, 0x30B9]), (0x3325, [0x30C7, 0x30B7]), (0x3326, [0x30C9, 0x30EB]),
  (0x3327, [0x30C8, 0x30F3]), (0x3328, [0x30CA, 0x30CE]), (0x3329, [0x30CE, 0x30C3, 0x30C8]),
  (0x332A, [0x30CF, 0x30A4, 0x30C4]), (0x332B, [0x30D1, 0x30FC, 0x30BB, 0x30F3, 0x30C8]),
  (0x332C, [0x30D1, 0x30FC, 0x30C4]), (0x332D, [0x30D0, 0x30FC, 0x30EC, 0x30EB]),
  (0x332E, [0x30D4, 0x30A2, 0x30B9, 0x30C8, 0x30EB]), (0x332F, [0x30D4, 0x30AF, 0x30EB]),
  (0x3330, [0x30D4, 0x30B3]), (0x3331, [0x30D3, 0x30EB]),
  (0x3332, [0x30D5, 0x30A1, 0x30E9, 0x30C3, 0x30C9]), (0x3333, [0x30D5, 0x30A3, 0x30FC, 0x30C8]),
  (0x3334, [0x30D6, 0x30C3, 0x30B7, 0x30A7, 0x30EB]), (0x3335, [0x30D5, 0x30E9, 0x30F3]),
  (0x3336, [0x30D8, 0x30AF, 0x30BF, 0x30FC, 0x30EB]), (0x3337, [0x30DA, 0x30BD]),
  (0x3338, [0x30DA, 0x30CB, 0x30D2]), (0x3339, [0x30D8, 0x30EB, 0x30C4]),
  (0x333A, [0x30DA, 0x30F3, 0x30B9]), (0x333B, [0x30DA, 0x30FC, 0x30B8]),
  (0x333C, [0x30D9, 0x30FC, 0x30BF]), (0x333D, [0x30DD, 0x30A4, 0x30F3, 0x30C8]),
  (0x333E, [0x30DC, 0x30EB, 0x30C8]), (0x333F, [0x30DB, 0x30F3]),
  (0x3340, [0x30DD, 0x30F3, 0x30C9]), (0x3341, [0x30DB, 0x30FC, 0x30EB]),
  (0x3342, [0x30DB, 0x30FC, 0x30F3]), (0x3343, [0x30DE, 0x30A4, 0x30AF, 0x30ED]),
  (0x3344, [0x30DE, 0x30A4, 0x30EB]), (0x3345, [0x30DE, 0x30C3, 0x30CF]),
  (0x3346, [0x30DE, 0x30EB, 0x30AF]), (0x3347, [0x30DE, 0x30F3, 0x30B7, 0x30E7, 0x30F3]),
  (0x3348, [0x30DF, 0x30AF, 0x30ED, 0x30F3]), (0x3349, [0x30DF, 0x30EA]),
  (0x334A, [0x30DF, 0x30EA, 0x30D0, 0x30FC, 0x30EB]), (0x334B, [0x30E1, 0x30AC]),
  (0x334C, [0x30E1, 0x30AC, 0x30C8, 0x30F3]), (0x334D, [0x30E1, 0x30FC, 0x30C8, 0x30EB]),
  (0x334E, [0x30E4, 0x30FC, 0x30C9]), (0x334F, [0x30E4, 0x30FC, 0x30EB]),
  (0x3350, [0x30E6, 0x30A2, 0x30F3]), (0x3351, [0x30EA, 0x30C3, 0x30C8, 0x30EB]),
  (0x3352, [0x30EA, 0x30E9]), (0x3353, [0x30EB, 0x30D4, 0x30FC]),
  (0x3354, [0x30EB, 0x30FC, 0x30D6, 0x30EB]), (0x3355, [0x30EC, 0x30E0]),
  (0x3356, [0x30EC, 0x30F3, 0x30C8, 0x30B2, 0x30F3]), (0x3357, [0x30EF, 0x30C3, 0x30C8]),
  (0x3358, [0x30, 0x70B9]), (0x3359, [0x31, 0x70B9]), (0x335A, [0x32, 0x70B9]),
  (0x335B, [0x33, 0x70B9]), (0x335C, [0x34, 0x70B9]), (0x335D, [0x35, 0x70B9]),
  (0x335E, [0x36, 0x70B9]), (0x335F, [0x37, 0x70B9]), (0x3360, [0x38, 0x70B9]),
  (0x3361, [0x39, 0x70B9]), (0x3362, [0x31, 0x30, 0x70B9]), (0x3363, [0x31, 0x31, 0x70B9]),
  (0x3364, [0x31, 0x32, 0x70B9]), (0x3365, [0x31, 0x33, 0x70B9]), (0x3366, [0x31, 0x34, 0x70B9]),
  (0x3367, [0x31, 0x35, 0x70B9]), (0x3368, [0x31, 0x36, 0x70B9]), (0x3369, [0x31, 0x37, 0x70B9]),
  (0x336A, [0x31, 0x38, 0x70B9]), (0x336B, [0x31, 0x39, 0x70B9]), (0x336C, [0x32, 0x30, 0x70B9]),
  (0x336D, [0x32, 0x31, 0x70B9]), (0x336E, [0x32, 0x32, 0x70B9]), (0x336F, [0x32, 0x33, 0x70B9]),
  (0x3370, [0x32, 0x34, 0x70B9]), (0x3371, [0x68, 0x70, 0x61]), (0x3372, [0x64, 0x61]),
  (0x3373, [0x61, 0x75]), (0x3374, [0x62, 0x61, 0x72]), (0x3375, [0x6F, 0x76]),
  (0x3376, [0x70, 0x63]), (0x3377, [0x64, 0x6D]), (0x3378, [0x64, 0x6D, 0x32]),
  (0x3379, [0x64, 0x6D, 0x33]), (0x337A, [0x69, 0x75]), (0x337B, [0x5E73, 0x6210]),
  (0x337C, [0x662D, 0x548C]), (0x337D, [0x5927, 0x6B63]), (0x337E, [0x660E, 0x6CBB]),
  (0x337F, [0x682A, 0x5F0F, 0x4F1A, 0x793E]), (0x3380, [0x70, 0x61]), (0x3381, [0x6E, 0x61]),
  (0x3382, [0x3BC, 0x61]), (0x3383, [0x6D, 0x61]), (0x3384, [0x6B, 0x61]), (0x3385, [0x6B, 0x62]),
  (0x3386, [0x6D, 0x62]), (0x3387, [0x67, 0x62]), (0x3388, [0x63, 0x61, 0x6C]),
  (0x3389, [0x6B, 0x63, 0x61, 0x6C]), (0x338A, [0x70, 0x66]), (0x338B, [0x6E, 0x66]),
  (0x338C, [0x3BC, 0x66]), (0x338D, [0x3BC, 0x67]), (0x338E, [0x6D, 0x67]), (0x338F, [0x6B, 0x67]),
  (0x3390, [0x68, 0x7A]), (0x3391, [0x6B, 0x68, 0x7A]), (0x3392, [0x6D, 0x68, 0x7A]),
  (0x3393, [0x67, 0x68, 0x7A]), (0x3394, [0x74, 0x68, 0x7A]), (0x3395, [0x3BC, 0x6C]),
  (0x3396, [0x6D, 0x6C]), (0x3397, [0x64, 0x6C]), (0x3398, [0x6B, 0x6C]), (0x3399, [0x66, 0x6D]),
  (0x339A, [0x6E, 0x6D]), (0x339B, [0x3BC, 0x6D]), (0x339C, [0x6D, 0x6D]), (0x339D, [0x63, 0x6D]),
  (0x339E, [0x6B, 0x6D]), (0x339F, [0x6D, 0x6D, 0x32]), (0x33A0, [0x63, 0x6D, 0x32]),
  (0x33A1, [0x6D, 0x32]), (0x33A2, [0x6B, 0x6D, 0x32]), (0x33A3, [0x6D, 0x6D, 0x33]),
  (0x33A4, [0x63, 0x6D, 0x33]), (0x33A5, [0x6D, 0x33]), (0x33A6, [0x6B, 0x6D, 0x33]),
  (0x33A7, [0x6D, 0x2215, 0x73]), (0x33A8, [0x6D, 0x2215, 0x73, 0x32]), (0x33A9, [0x70, 0x61]),
  (0x33AA, [0x6B, 0x70, 0x61]), (0x33AB, [0x6D, 0x70, 0x61]), (0x33AC, [0x67, 0x70, 0x61]),
  (0x33AD, [0x72, 0x61, 0x64]), (0x33AE, [0x72, 0x61, 0x64, 0x2215, 0x73]),
  (0x33AF, [0x72, 0x61, 0x64, 0x2215, 0x73, 0x32]), (0x33B0, [0x70, 0x73]), (0x33B1, [0x6E, 0x73]),
  (0x33B2, [0x3BC, 0x73]), (0x33B3, [0x6D, 0x73]), (0x33B4, [0x70, 0x76]), (0x33B5, [0x6E, 0x76]),
  (0x33B6, [0x3BC, 0x76]), (0x33B7, [0x6D, 0x76]), (0x33B8, [0x6B, 0x76]), (0x33B9, [0x6D, 0x76]),
  (0x33BA, [0x70, 0x77]), (0x33BB, [0x6E, 0x77]), (0x33BC, [0x3BC, 0x77]), (0x33BD, [0x6D, 0x77]),
  (0x33BE, [0x6B, 0x77]), (0x33BF, [0x6D, 0x77]), (0x33C0, [0x6B, 0x3C9]), (0x33C1, [0x6D, 0x3C9]),
  (0x33C3, [0x62, 0x71]), (0x33C4, [0x63, 0x63]), (0x33C5, [0x63, 0x64]),
  (0x33C6, [0x63, 0x2215, 0x6B, 0x67]), (0x33C8, [0x64, 0x62]), (0x33C9, [0x67, 0x79]),
  (0x33CA, [0x68, 0x61]), (0x33CB, [0x68, 0x70]), (0x33CC, [0x69, 0x6E]), (0x33CD, [0x6B, 0x6B]),
  (0x33CE, [0x6B, 0x6D]), (0x33CF, [0x6B, 0x74]), (0x33D0, [0x6C, 0x6D]), (0x33D1, [0x6C, 0x6E]),
  (0x33D2, [0x6C, 0x6F, 0x67]), (0x33D3, [0x6C, 0x78]), (0x33D4, [0x6D, 0x62]),
  (0x33D5, [0x6D, 0x69, 0x6C]), (0x33D6, [0x6D, 0x6F, 0x6C]), (0x33D7, [0x70, 0x68]),
  (0x33D9, [0x70, 0x70, 0x6D]), (0x33DA, [0x70, 0x72]), (0x33DB, [0x73, 0x72]),
  (0x33DC, [0x73, 0x76]), (0x33DD, [0x77, 0x62]), (0x33DE, [0x76, 0x2215, 0x6D]),
  (0x33DF, [0x61, 0x2215, 0x6D]), (0x33E0, [0x31, 0x65E5]), (0x33E1, [0x32, 0x65E5]),
  (0x33E2, [0x33, 0x65E5]), (0x33E3, [0x34, 0x65E5]), (0x33E4, [0x35, 0x65E5]),
  (0x33E5, [0x36, 0x65E5]), (0x33E6, [0x37, 0x65E5]), (0x33E7, [0x38, 0x65E5]),
  (0x33E8, [0x39, 0x65E5]), (0x33E9, [0x31, 0x30, 0x65E5]), (0x33EA, [0x31, 0x31, 0x65E5]),
  (0x33EB, [0x31, 0x32, 0x65E5]), (0x33EC, [0x31, 0x33, 0x65E5]), (0x33ED, [0x31, 0x34, 0x65E5]),
  (0x33EE, [0x31, 0x35, 0x65E5]), (0x33EF, [0x31, 0x36, 0x65E5]), (0x33F0, [0x31, 0x37, 0x65E5]),
  (0x33F1, [0x31, 0x38, 0x65E5]), (0x33F2, [0x31, 0x39, 0x65E5]), (0x33F3, [0x32, 0x30, 0x65E5]),
  (0x33F4, [0x32, 0x31, 0x65E5]), (0x33F5, [0x32, 0x32, 0x65E5]), (0x33F6, [0x32, 0x33, 0x65E5]),
  (0x33F7, [0x32, 0x34, 0x65E5]), (0x33F8, [0x32, 0x35, 0x65E5]), (0x33F9, [0x32, 0x36, 0x65E5]),
  (0x33FA, [0x32, 0x37, 0x65E5]), (0x33FB, [0x32, 0x38, 0x65E5]), (0x33FC, [0x32, 0x39, 0x65E5]),
  (0x33FD, [0x33, 0x30, 0x65E5]), (0x33FE, [0x33, 0x31, 0x65E5]), (0x33FF, [0x67, 0x61, 0x6C])]

/-- The code points from U+FB00 to U+FFFF that map to several characters. -/
def presentationSequences : List (Nat × List Nat) := [
  (0xFB00, [0x66, 0x66]), (0xFB01, [0x66, 0x69]), (0xFB02, [0x66, 0x6C]),
  (0xFB03, [0x66, 0x66, 0x69]), (0xFB04, [0x66, 0x66, 0x6C]), (0xFB05, [0x73, 0x74]),
  (0xFB06, [0x73, 0x74]), (0xFB13, [0x574, 0x576]), (0xFB14, [0x574, 0x565]),
  (0xFB15, [0x574, 0x56B]), (0xFB16, [0x57E, 0x576]), (0xFB17, [0x574, 0x56D]),
  (0xFB1D, [0x5D9, 0x5B4]), (0xFB1F, [0x5F2, 0x5B7]), (0xFB2A, [0x5E9, 0x5C1]),
  (0xFB2B, [0x5E9, 0x5C2]), (0xFB2C, [0x5E9, 0x5BC, 0x5C1]), (0xFB2D, [0x5E9, 0x5BC, 0x5C2]),
  (0xFB2E, [0x5D0, 0x5B7]), (0xFB2F, [0x5D0, 0x5B8]), (0xFB30, [0x5D0, 0x5BC]),
  (0xFB31, [0x5D1, 0x5BC]), (0xFB32, [0x5D2, 0x5BC]), (0xFB33, [0x5D3, 0x5BC]),
  (0xFB34, [0x5D4, 0x5BC]), (0xFB35, [0x5D5, 0x5BC]), (0xFB36, [0x5D6, 0x5BC]),
  (0xFB38, [0x5D8, 0x5BC]), (0xFB39, [0x5D9, 0x5BC]), (0xFB3A, [0x5DA, 0x5BC]),
  (0xFB3B, [0x5DB, 0x5BC]), (0xFB3C, [0x5DC, 0x5BC]), (0xFB3E, [0x5DE, 0x5BC]),
  (0xFB40, [0x5E0, 0x5BC]), (0xFB41, [0x5E1, 0x5BC]), (0xFB43, [0x5E3, 0x5BC]),
  (0xFB44, [0x5E4, 0x5BC]), (0xFB46, [0x5E6, 0x5BC]), (0xFB47, [0x5E7, 0x5BC]),
  (0xFB48, [0x5E8, 0x5BC]), (0xFB49, [0x5E9, 0x5BC]), (0xFB4A, [0x5EA, 0x5BC]),
  (0xFB4B, [0x5D5, 0x5B9]), (0xFB4C, [0x5D1, 0x5BF]), (0xFB4D, [0x5DB, 0x5BF]),
  (0xFB4E, [0x5E4, 0x5BF]), (0xFB4F, [0x5D0, 0x5DC]), (0xFBDD, [0x6C7, 0x674]),
  (0xFBEA, [0x626, 0x627]), (0xFBEB, [0x626, 0x627]), (0xFBEC, [0x626, 0x6D5]),
  (0xFBED, [0x626, 0x6D5]), (0xFBEE, [0x626, 0x648]), (0xFBEF, [0x626, 0x648]),
  (0xFBF0, [0x626, 0x6C7]), (0xFBF1, [0x626, 0x6C7]), (0xFBF2, [0x626, 0x6C6]),
  (0xFBF3, [0x626, 0x6C6]), (0xFBF4, [0x626, 0x6C8]), (0xFBF5, [0x626, 0x6C8]),
  (0xFBF6, [0x626, 0x6D0]), (0xFBF7, [0x626, 0x6D0]), (0xFBF8, [0x626, 0x6D0]),
  (0xFBF9, [0x626, 0x649]), (0xFBFA, [0x626, 0x649]), (0xFBFB, [0x626, 0x649]),
  (0xFC00, [0x626, 0x62C]), (0xFC01, [0x626, 0x62D]), (0xFC02, [0x626, 0x645]),
  (0xFC03, [0x626, 0x649]), (0xFC04, [0x626, 0x64A]), (0xFC05, [0x628, 0x62C]),
  (0xFC06, [0x628, 0x62D]), (0xFC07, [0x628, 0x62E]), (0xFC08, [0x628, 0x645]),
  (0xFC09, [0x628, 0x649]), (0xFC0A, [0x628, 0x64A]), (0xFC0B, [0x62A, 0x62C]),
  (0xFC0C, [0x62A, 0x62D]), (0xFC0D, [0x62A, 0x62E]), (0xFC0E, [0x62A, 0x645]),
  (0xFC0F, [0x62A, 0x649]), (0xFC10, [0x62A, 0x64A]), (0xFC11, [0x62B, 0x62C]),
  (0xFC12, [0x62B, 0x645]), (0xFC13, [0x62B, 0x649]), (0xFC14, [0x62B, 0x64A]),
  (0xFC15, [0x62C, 0x62D]), (0xFC16, [0x62C, 0x645]), (0xFC17, [0x62D, 0x62C]),
  (0xFC18, [0x62D, 0x645]), (0xFC19, [0x62E, 0x62C]), (0xFC1A, [0x62E, 0x62D]),
  (0xFC1B, [0x62E, 0x645]), (0xFC1C, [0x633, 0x62C]), (0xFC1D, [0x633, 0x62D]),
  (0xFC1E, [0x633, 0x62E]), (0xFC1F, [0x633, 0x645]), (0xFC20, [0x635, 0x62D]),
  (0xFC21, [0x635, 0x645]), (0xFC22, [0x636, 0x62C]), (0xFC23, [0x636, 0x62D]),
  (0xFC24, [0x636, 0x62E]), (0xFC25, [0x636, 0x645]), (0xFC26, [0x637, 0x62D]),
  (0xFC27, [0x637, 0x645]), (0xFC28, [0x638, 0x645]), (0xFC29, [0x639, 0x62C]),
  (0xFC2A, [0x639, 0x645]), (0xFC2B, [0x63A, 0x62C]), (0xFC2C, [0x63A, 0x645]),
  (0xFC2D, [0x641, 0x62C]), (0xFC2E, [0x641, 0x62D]), (0xFC2F, [0x641, 0x62E]),
  (0xFC30, [0x641, 0x645]), (0xFC31, [0x641, 0x649]), (0xFC32, [0x641, 0x64A]),
  (0xFC33, [0x642, 0x62D]), (0xFC34, [0x642, 0x645]), (0xFC35, [0x642, 0x649]),
  (0xFC36, [0x642, 0x64A]), (0xFC37, [0x643, 0x627]), (0xFC38, [0x643, 0x62C]),
  (0xFC39, [0x643, 0x62D]), (0xFC3A, [0x643, 0x62E]), (0xFC3B, [0x643, 0x644]),
  (0xFC3C, [0x643, 0x645]), (0xFC3D, [0x643, 0x649]), (0xFC3E, [0x643, 0x64A]),
  (0xFC3F, [0x644, 0x62C]), (0xFC40, [0x644, 0x62D]), (0xFC41, [0x644, 0x62E]),
  (0xFC42, [0x644, 0x645]), (0xFC43, [0x644, 0x649]), (0xFC44, [0x644, 0x64A]),
  (0xFC45, [0x645, 0x62C]), (0xFC46, [0x645, 0x62D]), (0xFC47, [0x645, 0x62E]),
  (0xFC48, [0x645, 0x645]), (0xFC49, [0x645, 0x649]), (0xFC4A, [0x645, 0x64A]),
  (0xFC4B, [0x646, 0x62C]), (0xFC4C, [0x646, 0x62D]), (0xFC4D, [0x646, 0x62E]),
  (0xFC4E, [0x646, 0x645]), (0xFC4F, [0x646, 0x649]), (0xFC50, [0x646, 0x64A]),
  (0xFC51, [0x647, 0x62C]), (0xFC52, [0x647, 0x645]), (0xFC53, [0x647, 0x649]),
  (0xFC54, [0x647, 0x64A]), (0xFC55, [0x64A, 0x62C]), (0xFC56, [0x64A, 0x62D]),
  (0xFC57, [0x64A, 0x62E]), (0xFC58, [0x64A, 0x645]), (0xFC59, [0x64A, 0x649]),
  (0xFC5A, [0x64A, 0x64A]), (0xFC5B, [0x630, 0x670]), (0xFC5C, [0x631, 0x670]),
  (0xFC5D, [0x649, 0x670]), (0xFC5E, [0x20, 0x64C, 0x651]), (0xFC5F, [0x20, 0x64D, 0x651]),
  (0xFC60, [0x20, 0x64E, 0x651]), (0xFC61, [0x20, 0x64F, 0x651]), (0xFC62, [0x20, 0x650, 0x651]),
  (0xFC63, [0x20, 0x651, 0x670]), (0xFC64, [0x626, 0x631]), (0xFC65, [0x626, 0x632]),
  (0xFC66, [0x626, 0x645]), (0xFC67, [0x626, 0x646]), (0xFC68, [0x626, 0x649]),
  (0xFC69, [0x626, 0x64A]), (0xFC6A, [0x628, 0x631]), (0xFC6B, [0x628, 0x632]),
  (0xFC6C, [0x628, 0x645]), (0xFC6D, [0x628, 0x646]), (0xFC6E, [0x628, 0x649]),
  (0xFC6F, [0x628, 0x64A]), (0xFC70, [0x62A, 0x631]), (0xFC71, [0x62A, 0x632]),
  (0xFC72, [0x62A, 0x645]), (0xFC73, [0x62A, 0x646]), (0xFC74, [0x62A, 0x649]),
  (0xFC75, [0x62A, 0x64A]), (0xFC76, [0x62B, 0x631]), (0xFC77, [0x62B, 0x632]),
  (0xFC78, [0x62B, 0x645]), (0xFC79, [0x62B, 0x646]), (0xFC7A, [0x62B, 0x649]),
  (0xFC7B, [0x62B, 0x64A]), (0xFC7C, [0x641, 0x649]), (0xFC7D, [0x641, 0x64A]),
  (0xFC7E, [0x642, 0x649]), (0xFC7F, [0x642, 0x64A]), (0xFC80, [0x643, 0x627]),
  (0xFC81, [0x643, 0x644]), (0xFC82, [0x643, 0x645]), (0xFC83, [0x643, 0x649]),
  (0xFC84, [0x643, 0x64A]), (0xFC85, [0x644, 0x645]), (0xFC86, [0x644, 0x649]),
  (0xFC87, [0x644, 0x64A]), (0xFC88, [0x645, 0x627]), (0xFC89, [0x645, 0x645]),
  (0xFC8A, [0x646, 0x631]), (0xFC8B, [0x646, 0x632]), (0xFC8C, [0x646, 0x645]),
  (0xFC8D, [0x646, 0x646]), (0xFC8E, [0x646, 0x649]), (0xFC8F, [0x646, 0x64A]),
  (0xFC90, [0x649, 0x670]), (0xFC91, [0x64A, 0x631]), (0xFC92, [0x64A, 0x632]),
  (0xFC93, [0x64A, 0x645]), (0xFC94, [0x64A, 0x646]), (0xFC95, [0x64A, 0x649]),
  (0xFC96, [0x64A, 0x64A]), (0xFC97, [0x626, 0x62C]), (0xFC98, [0x626, 0x62D]),
  (0xFC99, [0x626, 0x62E]), (0xFC9A, [0x626, 0x645]), (0xFC9B, [0x626, 0x647]),
  (0xFC9C, [0x628, 0x62C]), (0xFC9D, [0x628, 0x62D]), (0xFC9E, [0x628, 0x62E]),
  (0xFC9F, [0x628, 0x645]), (0xFCA0, [0x628, 0x647]), (0xFCA1, [0x62A, 0x62C]),
  (0xFCA2, [0x62A, 0x62D]), (0xFCA3, [0x62A, 0x62E]), (0xFCA4, [0x62A, 0x645]),
  (0xFCA5, [0x62A, 0x647]), (0xFCA6, [0x62B, 0x645]), (0xFCA7, [0x62C, 0x62D]),
  (0xFCA8, [0x62C, 0x645]), (0xFCA9, [0x62D, 0x62C]), (0xFCAA, [0x62D, 0x645]),
  (0xFCAB, [0x62E, 0x62C]), (0xFCAC, [0x62E, 0x645]), (0xFCAD, [0x633, 0x62C]),
  (0xFCAE, [0x633, 0x62D]), (0xFCAF, [0x633, 0x62E]), (0xFCB0, [0x633, 0x645]),
  (0xFCB1, [0x635, 0x62D]), (0xFCB2, [0x635, 0x62E]), (0xFCB3, [0x635, 0x645]),
  (0xFCB4, [0x636, 0x62C]), (0xFCB5, [0x636, 0x62D]), (0xFCB6, [0x636, 0x62E]),
  (0xFCB7, [0x636, 0x645]), (0xFCB8, [0x637, 0x62D]), (0xFCB9, [0x638, 0x645]),
  (0xFCBA, [0x639, 0x62C]), (0xFCBB, [0x639, 0x645]), (0xFCBC, [0x63A, 0x62C]),
  (0xFCBD, [0x63A, 0x645]), (0xFCBE, [0x641, 0x62C]), (0xFCBF, [0x641, 0x62D]),
  (0xFCC0, [0x641, 0x62E]), (0xFCC1, [0x641, 0x645]), (0xFCC2, [0x642, 0x62D]),
  (0xFCC3, [0x642, 0x645]), (0xFCC4, [0x643, 0x62C]), (0xFCC5, [0x643, 0x62D]),
  (0xFCC6, [0x643, 0x62E]), (0xFCC7, [0x643, 0x644]), (0xFCC8, [0x643, 0x645]),
  (0xFCC9, [0x644, 0x62C]), (0xFCCA, [0x644, 0x62D]), (0xFCCB, [0x644, 0x62E]),
  (0xFCCC, [0x644, 0x645]), (0xFCCD, [0x644, 0x647]), (0xFCCE, [0x645, 0x62C]),
  (0xFCCF, [0x645, 0x62D]), (0xFCD0, [0x645, 0x62E]), (0xFCD1, [0x645, 0x645]),
  (0xFCD2, [0x646, 0x62C]), (0xFCD3, [0x646, 0x62D]), (0xFCD4, [0x646, 0x62E]),
  (0xFCD5, [0x646, 0x645]), (0xFCD6, [0x646, 0x647]), (0xFCD7, [0x647, 0x62C]),
  (0xFCD8, [0x647, 0x645]), (0xFCD9, [0x647, 0x670]), (0xFCDA, [0x64A, 0x62C]),
  (0xFCDB, [0x64A, 0x62D]), (0xFCDC, [0x64A, 0x62E]), (0xFCDD, [0x64A, 0x645]),
  (0xFCDE, [0x64A, 0x647]), (0xFCDF, [0x626, 0x645]), (0xFCE0, [0x626, 0x647]),
  (0xFCE1, [0x628, 0x645]), (0xFCE2, [0x628, 0x647]), (0xFCE3, [0x62A, 0x645]),
  (0xFCE4, [0x62A, 0x647]), (0xFCE5, [0x62B, 0x645]), (0xFCE6, [0x62B, 0x647]),
  (0xFCE7, [0x633, 0x645]), (0xFCE8, [0x633, 0x647]), (0xFCE9, [0x634, 0x645]),
  (0xFCEA, [0x634, 0x647]), (0xFCEB, [0x643, 0x644]), (0xFCEC, [0x643, 0x645]),
  (0xFCED, [0x644, 0x645]), (0xFCEE, [0x646, 0x645]), (0xFCEF, [0x646, 0x647]),
  (0xFCF0, [0x64A, 0x645]), (0xFCF1, [0x64A, 0x647]), (0xFCF2, [0x640, 0x64E, 0x651]),
  (0xFCF3, [0x640, 0x64F, 0x651]), (0xFCF4, [0x640, 0x650, 0x651]), (0xFCF5, [0x637, 0x649]),
  (0xFCF6, [0x637, 0x64A]), (0xFCF7, [0x639, 0x649]), (0xFCF8, [0x639, 0x64A]),
  (0xFCF9, [0x63A, 0x649]), (0xFCFA, [0x63A, 0x64A]), (0xFCFB, [0x633, 0x649]),
  (0xFCFC, [0x633, 0x64A]), (0xFCFD, [0x634, 0x649]), (0xFCFE, [0x634, 0x64A]),
  (0xFCFF, [0x62D, 0x649]), (0xFD00, [0x62D, 0x64A]), (0xFD01, [0x62C, 0x649]),
  (0xFD02, [0x62C, 0x64A]), (0xFD03, [0x62E, 0x649]), (0xFD04, [0x62E, 0x64A]),
  (0xFD05, [0x635, 0x649]), (0xFD06, [0x635, 0x64A]), (0xFD07, [0x636, 0x649]),
  (0xFD08, [0x636, 0x64A]), (0xFD09, [0x634, 0x62C]), (0xFD0A, [0x634, 0x62D]),
  (0xFD0B, [0x634, 0x62E]), (0xFD0C, [0x634, 0x645]), (0xFD0D, [0x634, 0x631]),
  (0xFD0E, [0x633, 0x631]), (0xFD0F, [0x635, 0x631]), (0xFD10, [0x636, 0x631]),
  (0xFD11, [0x637, 0x649]), (0xFD12, [0x637, 0x64A]), (0xFD13, [0x639, 0x649]),
  (0xFD14, [0x639, 0x64A]), (0xFD15, [0x63A, 0x649]), (0xFD16, [0x63A, 0x64A]),
  (0xFD17, [0x633, 0x649]), (0xFD18, [0x633, 0x64A]), (0xFD19, [0x634, 0x649]),
  (0xFD1A, [0x634, 0x64A]), (0xFD1B, [0x62D, 0x649]), (0xFD1C, [0x62D, 0x64A]),
  (0xFD1D, [0x62C, 0x649]), (0xFD1E, [0x62C, 0x64A]), (0xFD1F, [0x62E, 0x649]),
  (0xFD20, [0x62E, 0x64A]), (0xFD21, [0x635, 0x649]), (0xFD22, [0x635, 0x64A]),
  (0xFD23, [0x636, 0x649]), (0xFD24, [0x636, 0x64A]), (0xFD25, [0x634, 0x62C]),
  (0xFD26, [0x634, 0x62D]), (0xFD27, [0x634, 0x62E]), (0xFD28, [0x634, 0x645]),
  (0xFD29, [0x634, 0x631]), (0xFD2A, [0x633, 0x631]), (0xFD2B, [0x635, 0x631]),
  (0xFD2C, [0x636, 0x631]), (0xFD2D, [0x634, 0x62C]), (0xFD2E, [0x634, 0x62D]),
  (0xFD2F, [0x634, 0x62E]), (0xFD30, [0x634, 0x645]), (0xFD31, [0x633, 0x647]),
  (0xFD32, [0x634, 0x647]), (0xFD33, [0x637, 0x645]), (0xFD34, [0x633, 0x62C]),
  (0xFD35, [0x633, 0x62D]), (0xFD36, [0x633, 0x62E]), (0xFD37, [0x634, 0x62C]),
  (0xFD38, [0x634, 0x62D]), (0xFD39, [0x634, 0x62E]), (0xFD3A, [0x637, 0x645]),
  (0xFD3B, [0x638, 0x645]), (0xFD3C, [0x627, 0x64B]), (0xFD3D, [0x627, 0x64B]),
  (0xFD50, [0x62A, 0x62C, 0x645]), (0xFD51, [0x62A, 0x62D, 0x62C]), (0xFD52, [0x62A, 0x62D, 0x62C]),
  (0xFD53, [0x62A, 0x62D, 0x645]), (0xFD54, [0x62A, 0x62E, 0x645]), (0xFD55, [0x62A, 0x645, 0x62C]),
  (0xFD56, [0x62A, 0x645, 0x62D]), (0xFD57, [0x62A, 0x645, 0x62E]), (0xFD58, [0x62C, 0x645, 0x62D]),
  (0xFD59, [0x62C, 0x645, 0x62D]), (0xFD5A, [0x62D, 0x645, 0x64A]), (0xFD5B, [0x62D, 0x645, 0x649]),
  (0xFD5C, [0x633, 0x62D, 0x62C]), (0xFD5D, [0x633, 0x62C, 0x62D]), (0xFD5E, [0x633, 0x62C, 0x649]),
  (0xFD5F, [0x633, 0x645, 0x62D]), (0xFD60, [0x633, 0x645, 0x62D]), (0xFD61, [0x633, 0x645, 0x62C]),
  (0xFD62, [0x633, 0x645, 0x645]), (0xFD63, [0x633, 0x645, 0x645]), (0xFD64, [0x635, 0x62D, 0x62D]),
  (0xFD65, [0x635, 0x62D, 0x62D]), (0xFD66, [0x635, 0x645, 0x645]), (0xFD67, [0x634, 0x62D, 0x645]),
  (0xFD68, [0x634, 0x62D, 0x645]), (0xFD69, [0x634, 0x62C, 0x64A]), (0xFD6A, [0x634, 0x645, 0x62E]),
  (0xFD6B, [0x634, 0x645, 0x62E]), (0xFD6C, [0x634, 0x645, 0x645]), (0xFD6D, [0x634, 0x645, 0x645]),
  (0xFD6E, [0x636, 0x62D, 0x649]), (0xFD6F, [0x636, 0x62E, 0x645]), (0xFD70, [0x636, 0x62E, 0x645]),
  (0xFD71, [0x637, 0x645, 0x62D]), (0xFD72, [0x637, 0x645, 0x62D]), (0xFD73, [0x637, 0x645, 0x645]),
  (0xFD74, [0x637, 0x645, 0x64A]), (0xFD75, [0x639, 0x62C, 0x645]), (0xFD76, [0x639, 0x645, 0x645]),
  (0xFD77, [0x639, 0x645, 0x645]), (0xFD78, [0x639, 0x645, 0x649]), (0xFD79, [0x63A, 0x645, 0x645]),
  (0xFD7A, [0x63A, 0x645, 0x64A]), (0xFD7B, [0x63A, 0x645, 0x649]), (0xFD7C, [0x641, 0x62E, 0x645]),
  (0xFD7D, [0x641, 0x62E, 0x645]), (0xFD7E, [0x642, 0x645, 0x62D]), (0xFD7F, [0x642, 0x645, 0x645]),
  (0xFD80, [0x644, 0x62D, 0x645]), (0xFD81, [0x644, 0x62D, 0x64A]), (0xFD82, [0x644, 0x62D, 0x649]),
  (0xFD83, [0x644, 0x62C, 0x62C]), (0xFD84, [0x644, 0x62C, 0x62C]), (0xFD85, [0x644, 0x62E, 0x645]),
  (0xFD86, [0x644, 0x62E, 0x645]), (0xFD87, [0x644, 0x645, 0x62D]), (0xFD88, [0x644, 0x645, 0x62D]),
  (0xFD89, [0x645, 0x62D, 0x62C]), (0xFD8A, [0x645, 0x62D, 0x645]), (0xFD8B, [0x645, 0x62D, 0x64A]),
  (0xFD8C, [0x645, 0x62C, 0x62D]), (0xFD8D, [0x645, 0x62C, 0x645]), (0xFD8E, [0x645, 0x62E, 0x62C]),
  (0xFD8F, [0x645, 0x62E, 0x645]), (0xFD92, [0x645, 0x62C, 0x62E]), (0xFD93, [0x647, 0x645, 0x62C]),
  (0xFD94, [0x647, 0x645, 0x645]), (0xFD95, [0x646, 0x62D, 0x645]), (0xFD96, [0x646, 0x62D, 0x649]),
  (0xFD97, [0x646, 0x62C, 0x645]), (0xFD98, [0x646, 0x62C, 0x645]), (0xFD99, [0x646, 0x62C, 0x649]),
  (0xFD9A, [0x646, 0x645, 0x64A]), (0xFD9B, [0x646, 0x645, 0x649]), (0xFD9C, [0x64A, 0x645, 0x645]),
  (0xFD9D, [0x64A, 0x645, 0x645]), (0xFD9E, [0x628, 0x62E, 0x64A]), (0xFD9F, [0x62A, 0x62C, 0x64A]),
  (0xFDA0, [0x62A, 0x62C, 0x649]), (0xFDA1, [0x62A, 0x62E, 0x64A]), (0xFDA2, [0x62A, 0x62E, 0x649]),
  (0xFDA3, [0x62A, 0x645, 0x64A]), (0xFDA4, [0x62A, 0x645, 0x649]), (0xFDA5, [0x62C, 0x645, 0x64A]),
  (0xFDA6, [0x62C, 0x62D, 0x649]), (0xFDA7, [0x62C, 0x645, 0x649]), (0xFDA8, [0x633, 0x62E, 0x649]),
  (0xFDA9, [0x635, 0x62D, 0x64A]), (0xFDAA, [0x634, 0x62D, 0x64A]), (0xFDAB, [0x636, 0x62D, 0x64A]),
  (0xFDAC, [0x644, 0x62C, 0x64A]), (0xFDAD, [0x644, 0x645, 0x64A]), (0xFDAE, [0x64A, 0x62D, 0x64A]),
  (0xFDAF, [0x64A, 0x62C, 0x64A]), (0xFDB0, [0x64A, 0x645, 0x64A]), (0xFDB1, [0x645, 0x645, 0x64A]),
  (0xFDB2, [0x642, 0x645, 0x64A]), (0xFDB3, [0x646, 0x62D, 0x64A]), (0xFDB4, [0x642, 0x645, 0x62D]),
  (0xFDB5, [0x644, 0x62D, 0x645]), (0xFDB6, [0x639, 0x645, 0x64A]), (0xFDB7, [0x643, 0x645, 0x64A]),
  (0xFDB8, [0x646, 0x62C, 0x62D]), (0xFDB9, [0x645, 0x62E, 0x64A]), (0xFDBA, [0x644, 0x62C, 0x645]),
  (0xFDBB, [0x643, 0x645, 0x645]), (0xFDBC, [0x644, 0x62C, 0x645]), (0xFDBD, [0x646, 0x62C, 0x62D]),
  (0xFDBE, [0x62C, 0x62D, 0x64A]), (0xFDBF, [0x62D, 0x62C, 0x64A]), (0xFDC0, [0x645, 0x62C, 0x64A]),
  (0xFDC1, [0x641, 0x645, 0x64A]), (0xFDC2, [0x628, 0x62D, 0x64A]), (0xFDC3, [0x643, 0x645, 0x645]),
  (0xFDC4, [0x639, 0x62C, 0x645]), (0xFDC5, [0x635, 0x645, 0x645]), (0xFDC6, [0x633, 0x62E, 0x64A]),
  (0xFDC7, [0x646, 0x62C, 0x64A]), (0xFDF0, [0x635, 0x644, 0x6D2]), (0xFDF1, [0x642, 0x644, 0x6D2]),
  (0xFDF2, [0x627, 0x644, 0x644, 0x647]), (0xFDF3, [0x627, 0x643, 0x628, 0x631]),
  (0xFDF4, [0x645, 0x62D, 0x645, 0x62F]), (0xFDF5, [0x635, 0x644, 0x639, 0x645]),
  (0xFDF6, [0x631, 0x633, 0x648, 0x644]), (0xFDF7, [0x639, 0x644, 0x64A, 0x647]),
  (0xFDF8, [0x648, 0x633, 0x644, 0x645]), (0xFDF9, [0x635, 0x644, 0x649]),
  (0xFDFA, [0x635, 0x644, 0x649, 0x20, 0x627, 0x644, 0x644, 0x647, 0x20, 0x639, 0x644, 0x64A, 0x647, 0x20, 0x648, 0x633, 0x644, 0x645]),
  (0xFDFB, [0x62C, 0x644, 0x20, 0x62C, 0x644, 0x627, 0x644, 0x647]),
  (0xFDFC, [0x631, 0x6CC, 0x627, 0x644]), (0xFE49, [0x20, 0x305]), (0xFE4A, [0x20, 0x305]),
  (0xFE4B, [0x20, 0x305]), (0xFE4C, [0x20, 0x305]), (0xFE70, [0x20, 0x64B]),
  (0xFE71, [0x640, 0x64B]), (0xFE72, [0x20, 0x64C]), (0xFE74, [0x20, 0x64D]),
  (0xFE76, [0x20, 0x64E]), (0xFE77, [0x640, 0x64E]), (0xFE78, [0x20, 0x64F]),
  (0xFE79, [0x640, 0x64F]), (0xFE7A, [0x20, 0x650]), (0xFE7B, [0x640, 0x650]),
  (0xFE7C, [0x20, 0x651]), (0xFE7D, [0x640, 0x651]), (0xFE7E, [0x20, 0x652]),
  (0xFE7F, [0x640, 0x652]), (0xFEF5, [0x644, 0x622]), (0xFEF6, [0x644, 0x622]),
  (0xFEF7, [0x644, 0x623]), (0xFEF8, [0x644, 0x623]), (0xFEF9, [0x644, 0x625]),
  (0xFEFA, [0x644, 0x625]), (0xFEFB, [0x644, 0x627]), (0xFEFC, [0x644, 0x627]),
  (0xFFE3, [0x20, 0x304])]

end ErrorReport.Url.Idna
