/-! Characters that names can hold and that stand for several others (Unicode 14), each with its
    full expansion. Those that arise by composing a pair are not listed here. -/

namespace LineScript.Text.Normal

/-- Characters, each with those that it stands for. -/
def expansions : List (Nat × List Nat) :=
  [(0x0132, [0x0049, 0x004A]), (0x0133, [0x0069, 0x006A]), (0x013F, [0x004C, 0x00B7]),
    (0x0140, [0x006C, 0x00B7]), (0x0149, [0x02BC, 0x006E]), (0x01C4, [0x0044, 0x005A, 0x030C]),
    (0x01C5, [0x0044, 0x007A, 0x030C]), (0x01C6, [0x0064, 0x007A, 0x030C]),
    (0x01C7, [0x004C, 0x004A]), (0x01C8, [0x004C, 0x006A]), (0x01C9, [0x006C, 0x006A]),
    (0x01CA, [0x004E, 0x004A]), (0x01CB, [0x004E, 0x006A]), (0x01CC, [0x006E, 0x006A]),
    (0x01F1, [0x0044, 0x005A]), (0x01F2, [0x0044, 0x007A]), (0x01F3, [0x0064, 0x007A]),
    (0x0344, [0x0308, 0x0301]), (0x0587, [0x0565, 0x0582]), (0x0675, [0x0627, 0x0674]),
    (0x0676, [0x0648, 0x0674]), (0x0677, [0x06C7, 0x0674]), (0x0678, [0x064A, 0x0674]),
    (0x0958, [0x0915, 0x093C]), (0x0959, [0x0916, 0x093C]), (0x095A, [0x0917, 0x093C]),
    (0x095B, [0x091C, 0x093C]), (0x095C, [0x0921, 0x093C]), (0x095D, [0x0922, 0x093C]),
    (0x095E, [0x092B, 0x093C]), (0x095F, [0x092F, 0x093C]), (0x09DC, [0x09A1, 0x09BC]),
    (0x09DD, [0x09A2, 0x09BC]), (0x09DF, [0x09AF, 0x09BC]), (0x0A33, [0x0A32, 0x0A3C]),
    (0x0A36, [0x0A38, 0x0A3C]), (0x0A59, [0x0A16, 0x0A3C]), (0x0A5A, [0x0A17, 0x0A3C]),
    (0x0A5B, [0x0A1C, 0x0A3C]), (0x0A5E, [0x0A2B, 0x0A3C]), (0x0B5C, [0x0B21, 0x0B3C]),
    (0x0B5D, [0x0B22, 0x0B3C]), (0x0E33, [0x0E4D, 0x0E32]), (0x0EB3, [0x0ECD, 0x0EB2]),
    (0x0EDC, [0x0EAB, 0x0E99]), (0x0EDD, [0x0EAB, 0x0EA1]), (0x0F43, [0x0F42, 0x0FB7]),
    (0x0F4D, [0x0F4C, 0x0FB7]), (0x0F52, [0x0F51, 0x0FB7]), (0x0F57, [0x0F56, 0x0FB7]),
    (0x0F5C, [0x0F5B, 0x0FB7]), (0x0F69, [0x0F40, 0x0FB5]), (0x0F73, [0x0F71, 0x0F72]),
    (0x0F75, [0x0F71, 0x0F74]), (0x0F76, [0x0FB2, 0x0F80]), (0x0F77, [0x0FB2, 0x0F71, 0x0F80]),
    (0x0F78, [0x0FB3, 0x0F80]), (0x0F79, [0x0FB3, 0x0F71, 0x0F80]), (0x0F81, [0x0F71, 0x0F80]),
    (0x0F93, [0x0F92, 0x0FB7]), (0x0F9D, [0x0F9C, 0x0FB7]), (0x0FA2, [0x0FA1, 0x0FB7]),
    (0x0FA7, [0x0FA6, 0x0FB7]), (0x0FAC, [0x0FAB, 0x0FB7]), (0x0FB9, [0x0F90, 0x0FB5]),
    (0x1E9A, [0x0061, 0x02BE]), (0x1F71, [0x03B1, 0x0301]), (0x1F73, [0x03B5, 0x0301]),
    (0x1F75, [0x03B7, 0x0301]), (0x1F77, [0x03B9, 0x0301]), (0x1F79, [0x03BF, 0x0301]),
    (0x1F7B, [0x03C5, 0x0301]), (0x1F7D, [0x03C9, 0x0301]), (0x1FBB, [0x0391, 0x0301]),
    (0x1FC9, [0x0395, 0x0301]), (0x1FCB, [0x0397, 0x0301]), (0x1FD3, [0x03B9, 0x0308, 0x0301]),
    (0x1FDB, [0x0399, 0x0301]), (0x1FE3, [0x03C5, 0x0308, 0x0301]), (0x1FEB, [0x03A5, 0x0301]),
    (0x1FF9, [0x039F, 0x0301]), (0x1FFB, [0x03A9, 0x0301]), (0x212B, [0x0041, 0x030A]),
    (0x2161, [0x0049, 0x0049]), (0x2162, [0x0049, 0x0049, 0x0049]), (0x2163, [0x0049, 0x0056]),
    (0x2165, [0x0056, 0x0049]), (0x2166, [0x0056, 0x0049, 0x0049]),
    (0x2167, [0x0056, 0x0049, 0x0049, 0x0049]), (0x2168, [0x0049, 0x0058]),
    (0x216A, [0x0058, 0x0049]), (0x216B, [0x0058, 0x0049, 0x0049]), (0x2171, [0x0069, 0x0069]),
    (0x2172, [0x0069, 0x0069, 0x0069]), (0x2173, [0x0069, 0x0076]), (0x2175, [0x0076, 0x0069]),
    (0x2176, [0x0076, 0x0069, 0x0069]), (0x2177, [0x0076, 0x0069, 0x0069, 0x0069]),
    (0x2178, [0x0069, 0x0078]), (0x217A, [0x0078, 0x0069]), (0x217B, [0x0078, 0x0069, 0x0069]),
    (0x309F, [0x3088, 0x308A]), (0x30FF, [0x30B3, 0x30C8]), (0xFB00, [0x0066, 0x0066]),
    (0xFB01, [0x0066, 0x0069]), (0xFB02, [0x0066, 0x006C]), (0xFB03, [0x0066, 0x0066, 0x0069]),
    (0xFB04, [0x0066, 0x0066, 0x006C]), (0xFB05, [0x0073, 0x0074]), (0xFB06, [0x0073, 0x0074]),
    (0xFB13, [0x0574, 0x0576]), (0xFB14, [0x0574, 0x0565]), (0xFB15, [0x0574, 0x056B]),
    (0xFB16, [0x057E, 0x0576]), (0xFB17, [0x0574, 0x056D]), (0xFB1D, [0x05D9, 0x05B4]),
    (0xFB1F, [0x05F2, 0x05B7]), (0xFB2A, [0x05E9, 0x05C1]), (0xFB2B, [0x05E9, 0x05C2]),
    (0xFB2C, [0x05E9, 0x05BC, 0x05C1]), (0xFB2D, [0x05E9, 0x05BC, 0x05C2]),
    (0xFB2E, [0x05D0, 0x05B7]), (0xFB2F, [0x05D0, 0x05B8]), (0xFB30, [0x05D0, 0x05BC]),
    (0xFB31, [0x05D1, 0x05BC]), (0xFB32, [0x05D2, 0x05BC]), (0xFB33, [0x05D3, 0x05BC]),
    (0xFB34, [0x05D4, 0x05BC]), (0xFB35, [0x05D5, 0x05BC]), (0xFB36, [0x05D6, 0x05BC]),
    (0xFB38, [0x05D8, 0x05BC]), (0xFB39, [0x05D9, 0x05BC]), (0xFB3A, [0x05DA, 0x05BC]),
    (0xFB3B, [0x05DB, 0x05BC]), (0xFB3C, [0x05DC, 0x05BC]), (0xFB3E, [0x05DE, 0x05BC]),
    (0xFB40, [0x05E0, 0x05BC]), (0xFB41, [0x05E1, 0x05BC]), (0xFB43, [0x05E3, 0x05BC]),
    (0xFB44, [0x05E4, 0x05BC]), (0xFB46, [0x05E6, 0x05BC]), (0xFB47, [0x05E7, 0x05BC]),
    (0xFB48, [0x05E8, 0x05BC]), (0xFB49, [0x05E9, 0x05BC]), (0xFB4A, [0x05EA, 0x05BC]),
    (0xFB4B, [0x05D5, 0x05B9]), (0xFB4C, [0x05D1, 0x05BF]), (0xFB4D, [0x05DB, 0x05BF]),
    (0xFB4E, [0x05E4, 0x05BF]), (0xFB4F, [0x05D0, 0x05DC]), (0xFBA4, [0x06D5, 0x0654]),
    (0xFBA5, [0x06D5, 0x0654]), (0xFBB0, [0x06D2, 0x0654]), (0xFBB1, [0x06D2, 0x0654]),
    (0xFBDD, [0x06C7, 0x0674]), (0xFBEA, [0x064A, 0x0654, 0x0627]),
    (0xFBEB, [0x064A, 0x0654, 0x0627]), (0xFBEC, [0x064A, 0x0654, 0x06D5]),
    (0xFBED, [0x064A, 0x0654, 0x06D5]), (0xFBEE, [0x064A, 0x0654, 0x0648]),
    (0xFBEF, [0x064A, 0x0654, 0x0648]), (0xFBF0, [0x064A, 0x0654, 0x06C7]),
    (0xFBF1, [0x064A, 0x0654, 0x06C7]), (0xFBF2, [0x064A, 0x0654, 0x06C6]),
    (0xFBF3, [0x064A, 0x0654, 0x06C6]), (0xFBF4, [0x064A, 0x0654, 0x06C8]),
    (0xFBF5, [0x064A, 0x0654, 0x06C8]), (0xFBF6, [0x064A, 0x0654, 0x06D0]),
    (0xFBF7, [0x064A, 0x0654, 0x06D0]), (0xFBF8, [0x064A, 0x0654, 0x06D0]),
    (0xFBF9, [0x064A, 0x0654, 0x0649]), (0xFBFA, [0x064A, 0x0654, 0x0649]),
    (0xFBFB, [0x064A, 0x0654, 0x0649]), (0xFC00, [0x064A, 0x0654, 0x062C]),
    (0xFC01, [0x064A, 0x0654, 0x062D]), (0xFC02, [0x064A, 0x0654, 0x0645]),
    (0xFC03, [0x064A, 0x0654, 0x0649]), (0xFC04, [0x064A, 0x0654, 0x064A]),
    (0xFC05, [0x0628, 0x062C]), (0xFC06, [0x0628, 0x062D]), (0xFC07, [0x0628, 0x062E]),
    (0xFC08, [0x0628, 0x0645]), (0xFC09, [0x0628, 0x0649]), (0xFC0A, [0x0628, 0x064A]),
    (0xFC0B, [0x062A, 0x062C]), (0xFC0C, [0x062A, 0x062D]), (0xFC0D, [0x062A, 0x062E]),
    (0xFC0E, [0x062A, 0x0645]), (0xFC0F, [0x062A, 0x0649]), (0xFC10, [0x062A, 0x064A]),
    (0xFC11, [0x062B, 0x062C]), (0xFC12, [0x062B, 0x0645]), (0xFC13, [0x062B, 0x0649]),
    (0xFC14, [0x062B, 0x064A]), (0xFC15, [0x062C, 0x062D]), (0xFC16, [0x062C, 0x0645]),
    (0xFC17, [0x062D, 0x062C]), (0xFC18, [0x062D, 0x0645]), (0xFC19, [0x062E, 0x062C]),
    (0xFC1A, [0x062E, 0x062D]), (0xFC1B, [0x062E, 0x0645]), (0xFC1C, [0x0633, 0x062C]),
    (0xFC1D, [0x0633, 0x062D]), (0xFC1E, [0x0633, 0x062E]), (0xFC1F, [0x0633, 0x0645]),
    (0xFC20, [0x0635, 0x062D]), (0xFC21, [0x0635, 0x0645]), (0xFC22, [0x0636, 0x062C]),
    (0xFC23, [0x0636, 0x062D]), (0xFC24, [0x0636, 0x062E]), (0xFC25, [0x0636, 0x0645]),
    (0xFC26, [0x0637, 0x062D]), (0xFC27, [0x0637, 0x0645]), (0xFC28, [0x0638, 0x0645]),
    (0xFC29, [0x0639, 0x062C]), (0xFC2A, [0x0639, 0x0645]), (0xFC2B, [0x063A, 0x062C]),
    (0xFC2C, [0x063A, 0x0645]), (0xFC2D, [0x0641, 0x062C]), (0xFC2E, [0x0641, 0x062D]),
    (0xFC2F, [0x0641, 0x062E]), (0xFC30, [0x0641, 0x0645]), (0xFC31, [0x0641, 0x0649]),
    (0xFC32, [0x0641, 0x064A]), (0xFC33, [0x0642, 0x062D]), (0xFC34, [0x0642, 0x0645]),
    (0xFC35, [0x0642, 0x0649]), (0xFC36, [0x0642, 0x064A]), (0xFC37, [0x0643, 0x0627]),
    (0xFC38, [0x0643, 0x062C]), (0xFC39, [0x0643, 0x062D]), (0xFC3A, [0x0643, 0x062E]),
    (0xFC3B, [0x0643, 0x0644]), (0xFC3C, [0x0643, 0x0645]), (0xFC3D, [0x0643, 0x0649]),
    (0xFC3E, [0x0643, 0x064A]), (0xFC3F, [0x0644, 0x062C]), (0xFC40, [0x0644, 0x062D]),
    (0xFC41, [0x0644, 0x062E]), (0xFC42, [0x0644, 0x0645]), (0xFC43, [0x0644, 0x0649]),
    (0xFC44, [0x0644, 0x064A]), (0xFC45, [0x0645, 0x062C]), (0xFC46, [0x0645, 0x062D]),
    (0xFC47, [0x0645, 0x062E]), (0xFC48, [0x0645, 0x0645]), (0xFC49, [0x0645, 0x0649]),
    (0xFC4A, [0x0645, 0x064A]), (0xFC4B, [0x0646, 0x062C]), (0xFC4C, [0x0646, 0x062D]),
    (0xFC4D, [0x0646, 0x062E]), (0xFC4E, [0x0646, 0x0645]), (0xFC4F, [0x0646, 0x0649]),
    (0xFC50, [0x0646, 0x064A]), (0xFC51, [0x0647, 0x062C]), (0xFC52, [0x0647, 0x0645]),
    (0xFC53, [0x0647, 0x0649]), (0xFC54, [0x0647, 0x064A]), (0xFC55, [0x064A, 0x062C]),
    (0xFC56, [0x064A, 0x062D]), (0xFC57, [0x064A, 0x062E]), (0xFC58, [0x064A, 0x0645]),
    (0xFC59, [0x064A, 0x0649]), (0xFC5A, [0x064A, 0x064A]), (0xFC5B, [0x0630, 0x0670]),
    (0xFC5C, [0x0631, 0x0670]), (0xFC5D, [0x0649, 0x0670]), (0xFC64, [0x064A, 0x0654, 0x0631]),
    (0xFC65, [0x064A, 0x0654, 0x0632]), (0xFC66, [0x064A, 0x0654, 0x0645]),
    (0xFC67, [0x064A, 0x0654, 0x0646]), (0xFC68, [0x064A, 0x0654, 0x0649]),
    (0xFC69, [0x064A, 0x0654, 0x064A]), (0xFC6A, [0x0628, 0x0631]), (0xFC6B, [0x0628, 0x0632]),
    (0xFC6C, [0x0628, 0x0645]), (0xFC6D, [0x0628, 0x0646]), (0xFC6E, [0x0628, 0x0649]),
    (0xFC6F, [0x0628, 0x064A]), (0xFC70, [0x062A, 0x0631]), (0xFC71, [0x062A, 0x0632]),
    (0xFC72, [0x062A, 0x0645]), (0xFC73, [0x062A, 0x0646]), (0xFC74, [0x062A, 0x0649]),
    (0xFC75, [0x062A, 0x064A]), (0xFC76, [0x062B, 0x0631]), (0xFC77, [0x062B, 0x0632]),
    (0xFC78, [0x062B, 0x0645]), (0xFC79, [0x062B, 0x0646]), (0xFC7A, [0x062B, 0x0649]),
    (0xFC7B, [0x062B, 0x064A]), (0xFC7C, [0x0641, 0x0649]), (0xFC7D, [0x0641, 0x064A]),
    (0xFC7E, [0x0642, 0x0649]), (0xFC7F, [0x0642, 0x064A]), (0xFC80, [0x0643, 0x0627]),
    (0xFC81, [0x0643, 0x0644]), (0xFC82, [0x0643, 0x0645]), (0xFC83, [0x0643, 0x0649]),
    (0xFC84, [0x0643, 0x064A]), (0xFC85, [0x0644, 0x0645]), (0xFC86, [0x0644, 0x0649]),
    (0xFC87, [0x0644, 0x064A]), (0xFC88, [0x0645, 0x0627]), (0xFC89, [0x0645, 0x0645]),
    (0xFC8A, [0x0646, 0x0631]), (0xFC8B, [0x0646, 0x0632]), (0xFC8C, [0x0646, 0x0645]),
    (0xFC8D, [0x0646, 0x0646]), (0xFC8E, [0x0646, 0x0649]), (0xFC8F, [0x0646, 0x064A]),
    (0xFC90, [0x0649, 0x0670]), (0xFC91, [0x064A, 0x0631]), (0xFC92, [0x064A, 0x0632]),
    (0xFC93, [0x064A, 0x0645]), (0xFC94, [0x064A, 0x0646]), (0xFC95, [0x064A, 0x0649]),
    (0xFC96, [0x064A, 0x064A]), (0xFC97, [0x064A, 0x0654, 0x062C]),
    (0xFC98, [0x064A, 0x0654, 0x062D]), (0xFC99, [0x064A, 0x0654, 0x062E]),
    (0xFC9A, [0x064A, 0x0654, 0x0645]), (0xFC9B, [0x064A, 0x0654, 0x0647]),
    (0xFC9C, [0x0628, 0x062C]), (0xFC9D, [0x0628, 0x062D]), (0xFC9E, [0x0628, 0x062E]),
    (0xFC9F, [0x0628, 0x0645]), (0xFCA0, [0x0628, 0x0647]), (0xFCA1, [0x062A, 0x062C]),
    (0xFCA2, [0x062A, 0x062D]), (0xFCA3, [0x062A, 0x062E]), (0xFCA4, [0x062A, 0x0645]),
    (0xFCA5, [0x062A, 0x0647]), (0xFCA6, [0x062B, 0x0645]), (0xFCA7, [0x062C, 0x062D]),
    (0xFCA8, [0x062C, 0x0645]), (0xFCA9, [0x062D, 0x062C]), (0xFCAA, [0x062D, 0x0645]),
    (0xFCAB, [0x062E, 0x062C]), (0xFCAC, [0x062E, 0x0645]), (0xFCAD, [0x0633, 0x062C]),
    (0xFCAE, [0x0633, 0x062D]), (0xFCAF, [0x0633, 0x062E]), (0xFCB0, [0x0633, 0x0645]),
    (0xFCB1, [0x0635, 0x062D]), (0xFCB2, [0x0635, 0x062E]), (0xFCB3, [0x0635, 0x0645]),
    (0xFCB4, [0x0636, 0x062C]), (0xFCB5, [0x0636, 0x062D]), (0xFCB6, [0x0636, 0x062E]),
    (0xFCB7, [0x0636, 0x0645]), (0xFCB8, [0x0637, 0x062D]), (0xFCB9, [0x0638, 0x0645]),
    (0xFCBA, [0x0639, 0x062C]), (0xFCBB, [0x0639, 0x0645]), (0xFCBC, [0x063A, 0x062C]),
    (0xFCBD, [0x063A, 0x0645]), (0xFCBE, [0x0641, 0x062C]), (0xFCBF, [0x0641, 0x062D]),
    (0xFCC0, [0x0641, 0x062E]), (0xFCC1, [0x0641, 0x0645]), (0xFCC2, [0x0642, 0x062D]),
    (0xFCC3, [0x0642, 0x0645]), (0xFCC4, [0x0643, 0x062C]), (0xFCC5, [0x0643, 0x062D]),
    (0xFCC6, [0x0643, 0x062E]), (0xFCC7, [0x0643, 0x0644]), (0xFCC8, [0x0643, 0x0645]),
    (0xFCC9, [0x0644, 0x062C]), (0xFCCA, [0x0644, 0x062D]), (0xFCCB, [0x0644, 0x062E]),
    (0xFCCC, [0x0644, 0x0645]), (0xFCCD, [0x0644, 0x0647]), (0xFCCE, [0x0645, 0x062C]),
    (0xFCCF, [0x0645, 0x062D]), (0xFCD0, [0x0645, 0x062E]), (0xFCD1, [0x0645, 0x0645]),
    (0xFCD2, [0x0646, 0x062C]), (0xFCD3, [0x0646, 0x062D]), (0xFCD4, [0x0646, 0x062E]),
    (0xFCD5, [0x0646, 0x0645]), (0xFCD6, [0x0646, 0x0647]), (0xFCD7, [0x0647, 0x062C]),
    (0xFCD8, [0x0647, 0x0645]), (0xFCD9, [0x0647, 0x0670]), (0xFCDA, [0x064A, 0x062C]),
    (0xFCDB, [0x064A, 0x062D]), (0xFCDC, [0x064A, 0x062E]), (0xFCDD, [0x064A, 0x0645]),
    (0xFCDE, [0x064A, 0x0647]), (0xFCDF, [0x064A, 0x0654, 0x0645]),
    (0xFCE0, [0x064A, 0x0654, 0x0647]), (0xFCE1, [0x0628, 0x0645]), (0xFCE2, [0x0628, 0x0647]),
    (0xFCE3, [0x062A, 0x0645]), (0xFCE4, [0x062A, 0x0647]), (0xFCE5, [0x062B, 0x0645]),
    (0xFCE6, [0x062B, 0x0647]), (0xFCE7, [0x0633, 0x0645]), (0xFCE8, [0x0633, 0x0647]),
    (0xFCE9, [0x0634, 0x0645]), (0xFCEA, [0x0634, 0x0647]), (0xFCEB, [0x0643, 0x0644]),
    (0xFCEC, [0x0643, 0x0645]), (0xFCED, [0x0644, 0x0645]), (0xFCEE, [0x0646, 0x0645]),
    (0xFCEF, [0x0646, 0x0647]), (0xFCF0, [0x064A, 0x0645]), (0xFCF1, [0x064A, 0x0647]),
    (0xFCF2, [0x0640, 0x064E, 0x0651]), (0xFCF3, [0x0640, 0x064F, 0x0651]),
    (0xFCF4, [0x0640, 0x0650, 0x0651]), (0xFCF5, [0x0637, 0x0649]), (0xFCF6, [0x0637, 0x064A]),
    (0xFCF7, [0x0639, 0x0649]), (0xFCF8, [0x0639, 0x064A]), (0xFCF9, [0x063A, 0x0649]),
    (0xFCFA, [0x063A, 0x064A]), (0xFCFB, [0x0633, 0x0649]), (0xFCFC, [0x0633, 0x064A]),
    (0xFCFD, [0x0634, 0x0649]), (0xFCFE, [0x0634, 0x064A]), (0xFCFF, [0x062D, 0x0649]),
    (0xFD00, [0x062D, 0x064A]), (0xFD01, [0x062C, 0x0649]), (0xFD02, [0x062C, 0x064A]),
    (0xFD03, [0x062E, 0x0649]), (0xFD04, [0x062E, 0x064A]), (0xFD05, [0x0635, 0x0649]),
    (0xFD06, [0x0635, 0x064A]), (0xFD07, [0x0636, 0x0649]), (0xFD08, [0x0636, 0x064A]),
    (0xFD09, [0x0634, 0x062C]), (0xFD0A, [0x0634, 0x062D]), (0xFD0B, [0x0634, 0x062E]),
    (0xFD0C, [0x0634, 0x0645]), (0xFD0D, [0x0634, 0x0631]), (0xFD0E, [0x0633, 0x0631]),
    (0xFD0F, [0x0635, 0x0631]), (0xFD10, [0x0636, 0x0631]), (0xFD11, [0x0637, 0x0649]),
    (0xFD12, [0x0637, 0x064A]), (0xFD13, [0x0639, 0x0649]), (0xFD14, [0x0639, 0x064A]),
    (0xFD15, [0x063A, 0x0649]), (0xFD16, [0x063A, 0x064A]), (0xFD17, [0x0633, 0x0649]),
    (0xFD18, [0x0633, 0x064A]), (0xFD19, [0x0634, 0x0649]), (0xFD1A, [0x0634, 0x064A]),
    (0xFD1B, [0x062D, 0x0649]), (0xFD1C, [0x062D, 0x064A]), (0xFD1D, [0x062C, 0x0649]),
    (0xFD1E, [0x062C, 0x064A]), (0xFD1F, [0x062E, 0x0649]), (0xFD20, [0x062E, 0x064A]),
    (0xFD21, [0x0635, 0x0649]), (0xFD22, [0x0635, 0x064A]), (0xFD23, [0x0636, 0x0649]),
    (0xFD24, [0x0636, 0x064A]), (0xFD25, [0x0634, 0x062C]), (0xFD26, [0x0634, 0x062D]),
    (0xFD27, [0x0634, 0x062E]), (0xFD28, [0x0634, 0x0645]), (0xFD29, [0x0634, 0x0631]),
    (0xFD2A, [0x0633, 0x0631]), (0xFD2B, [0x0635, 0x0631]), (0xFD2C, [0x0636, 0x0631]),
    (0xFD2D, [0x0634, 0x062C]), (0xFD2E, [0x0634, 0x062D]), (0xFD2F, [0x0634, 0x062E]),
    (0xFD30, [0x0634, 0x0645]), (0xFD31, [0x0633, 0x0647]), (0xFD32, [0x0634, 0x0647]),
    (0xFD33, [0x0637, 0x0645]), (0xFD34, [0x0633, 0x062C]), (0xFD35, [0x0633, 0x062D]),
    (0xFD36, [0x0633, 0x062E]), (0xFD37, [0x0634, 0x062C]), (0xFD38, [0x0634, 0x062D]),
    (0xFD39, [0x0634, 0x062E]), (0xFD3A, [0x0637, 0x0645]), (0xFD3B, [0x0638, 0x0645]),
    (0xFD3C, [0x0627, 0x064B]), (0xFD3D, [0x0627, 0x064B]), (0xFD50, [0x062A, 0x062C, 0x0645]),
    (0xFD51, [0x062A, 0x062D, 0x062C]), (0xFD52, [0x062A, 0x062D, 0x062C]),
    (0xFD53, [0x062A, 0x062D, 0x0645]), (0xFD54, [0x062A, 0x062E, 0x0645]),
    (0xFD55, [0x062A, 0x0645, 0x062C]), (0xFD56, [0x062A, 0x0645, 0x062D]),
    (0xFD57, [0x062A, 0x0645, 0x062E]), (0xFD58, [0x062C, 0x0645, 0x062D]),
    (0xFD59, [0x062C, 0x0645, 0x062D]), (0xFD5A, [0x062D, 0x0645, 0x064A]),
    (0xFD5B, [0x062D, 0x0645, 0x0649]), (0xFD5C, [0x0633, 0x062D, 0x062C]),
    (0xFD5D, [0x0633, 0x062C, 0x062D]), (0xFD5E, [0x0633, 0x062C, 0x0649]),
    (0xFD5F, [0x0633, 0x0645, 0x062D]), (0xFD60, [0x0633, 0x0645, 0x062D]),
    (0xFD61, [0x0633, 0x0645, 0x062C]), (0xFD62, [0x0633, 0x0645, 0x0645]),
    (0xFD63, [0x0633, 0x0645, 0x0645]), (0xFD64, [0x0635, 0x062D, 0x062D]),
    (0xFD65, [0x0635, 0x062D, 0x062D]), (0xFD66, [0x0635, 0x0645, 0x0645]),
    (0xFD67, [0x0634, 0x062D, 0x0645]), (0xFD68, [0x0634, 0x062D, 0x0645]),
    (0xFD69, [0x0634, 0x062C, 0x064A]), (0xFD6A, [0x0634, 0x0645, 0x062E]),
    (0xFD6B, [0x0634, 0x0645, 0x062E]), (0xFD6C, [0x0634, 0x0645, 0x0645]),
    (0xFD6D, [0x0634, 0x0645, 0x0645]), (0xFD6E, [0x0636, 0x062D, 0x0649]),
    (0xFD6F, [0x0636, 0x062E, 0x0645]), (0xFD70, [0x0636, 0x062E, 0x0645]),
    (0xFD71, [0x0637, 0x0645, 0x062D]), (0xFD72, [0x0637, 0x0645, 0x062D]),
    (0xFD73, [0x0637, 0x0645, 0x0645]), (0xFD74, [0x0637, 0x0645, 0x064A]),
    (0xFD75, [0x0639, 0x062C, 0x0645]), (0xFD76, [0x0639, 0x0645, 0x0645]),
    (0xFD77, [0x0639, 0x0645, 0x0645]), (0xFD78, [0x0639, 0x0645, 0x0649]),
    (0xFD79, [0x063A, 0x0645, 0x0645]), (0xFD7A, [0x063A, 0x0645, 0x064A]),
    (0xFD7B, [0x063A, 0x0645, 0x0649]), (0xFD7C, [0x0641, 0x062E, 0x0645]),
    (0xFD7D, [0x0641, 0x062E, 0x0645]), (0xFD7E, [0x0642, 0x0645, 0x062D]),
    (0xFD7F, [0x0642, 0x0645, 0x0645]), (0xFD80, [0x0644, 0x062D, 0x0645]),
    (0xFD81, [0x0644, 0x062D, 0x064A]), (0xFD82, [0x0644, 0x062D, 0x0649]),
    (0xFD83, [0x0644, 0x062C, 0x062C]), (0xFD84, [0x0644, 0x062C, 0x062C]),
    (0xFD85, [0x0644, 0x062E, 0x0645]), (0xFD86, [0x0644, 0x062E, 0x0645]),
    (0xFD87, [0x0644, 0x0645, 0x062D]), (0xFD88, [0x0644, 0x0645, 0x062D]),
    (0xFD89, [0x0645, 0x062D, 0x062C]), (0xFD8A, [0x0645, 0x062D, 0x0645]),
    (0xFD8B, [0x0645, 0x062D, 0x064A]), (0xFD8C, [0x0645, 0x062C, 0x062D]),
    (0xFD8D, [0x0645, 0x062C, 0x0645]), (0xFD8E, [0x0645, 0x062E, 0x062C]),
    (0xFD8F, [0x0645, 0x062E, 0x0645]), (0xFD92, [0x0645, 0x062C, 0x062E]),
    (0xFD93, [0x0647, 0x0645, 0x062C]), (0xFD94, [0x0647, 0x0645, 0x0645]),
    (0xFD95, [0x0646, 0x062D, 0x0645]), (0xFD96, [0x0646, 0x062D, 0x0649]),
    (0xFD97, [0x0646, 0x062C, 0x0645]), (0xFD98, [0x0646, 0x062C, 0x0645]),
    (0xFD99, [0x0646, 0x062C, 0x0649]), (0xFD9A, [0x0646, 0x0645, 0x064A]),
    (0xFD9B, [0x0646, 0x0645, 0x0649]), (0xFD9C, [0x064A, 0x0645, 0x0645]),
    (0xFD9D, [0x064A, 0x0645, 0x0645]), (0xFD9E, [0x0628, 0x062E, 0x064A]),
    (0xFD9F, [0x062A, 0x062C, 0x064A]), (0xFDA0, [0x062A, 0x062C, 0x0649]),
    (0xFDA1, [0x062A, 0x062E, 0x064A]), (0xFDA2, [0x062A, 0x062E, 0x0649]),
    (0xFDA3, [0x062A, 0x0645, 0x064A]), (0xFDA4, [0x062A, 0x0645, 0x0649]),
    (0xFDA5, [0x062C, 0x0645, 0x064A]), (0xFDA6, [0x062C, 0x062D, 0x0649]),
    (0xFDA7, [0x062C, 0x0645, 0x0649]), (0xFDA8, [0x0633, 0x062E, 0x0649]),
    (0xFDA9, [0x0635, 0x062D, 0x064A]), (0xFDAA, [0x0634, 0x062D, 0x064A]),
    (0xFDAB, [0x0636, 0x062D, 0x064A]), (0xFDAC, [0x0644, 0x062C, 0x064A]),
    (0xFDAD, [0x0644, 0x0645, 0x064A]), (0xFDAE, [0x064A, 0x062D, 0x064A]),
    (0xFDAF, [0x064A, 0x062C, 0x064A]), (0xFDB0, [0x064A, 0x0645, 0x064A]),
    (0xFDB1, [0x0645, 0x0645, 0x064A]), (0xFDB2, [0x0642, 0x0645, 0x064A]),
    (0xFDB3, [0x0646, 0x062D, 0x064A]), (0xFDB4, [0x0642, 0x0645, 0x062D]),
    (0xFDB5, [0x0644, 0x062D, 0x0645]), (0xFDB6, [0x0639, 0x0645, 0x064A]),
    (0xFDB7, [0x0643, 0x0645, 0x064A]), (0xFDB8, [0x0646, 0x062C, 0x062D]),
    (0xFDB9, [0x0645, 0x062E, 0x064A]), (0xFDBA, [0x0644, 0x062C, 0x0645]),
    (0xFDBB, [0x0643, 0x0645, 0x0645]), (0xFDBC, [0x0644, 0x062C, 0x0645]),
    (0xFDBD, [0x0646, 0x062C, 0x062D]), (0xFDBE, [0x062C, 0x062D, 0x064A]),
    (0xFDBF, [0x062D, 0x062C, 0x064A]), (0xFDC0, [0x0645, 0x062C, 0x064A]),
    (0xFDC1, [0x0641, 0x0645, 0x064A]), (0xFDC2, [0x0628, 0x062D, 0x064A]),
    (0xFDC3, [0x0643, 0x0645, 0x0645]), (0xFDC4, [0x0639, 0x062C, 0x0645]),
    (0xFDC5, [0x0635, 0x0645, 0x0645]), (0xFDC6, [0x0633, 0x062E, 0x064A]),
    (0xFDC7, [0x0646, 0x062C, 0x064A]), (0xFDF0, [0x0635, 0x0644, 0x06D2]),
    (0xFDF1, [0x0642, 0x0644, 0x06D2]), (0xFDF2, [0x0627, 0x0644, 0x0644, 0x0647]),
    (0xFDF3, [0x0627, 0x0643, 0x0628, 0x0631]), (0xFDF4, [0x0645, 0x062D, 0x0645, 0x062F]),
    (0xFDF5, [0x0635, 0x0644, 0x0639, 0x0645]), (0xFDF6, [0x0631, 0x0633, 0x0648, 0x0644]),
    (0xFDF7, [0x0639, 0x0644, 0x064A, 0x0647]), (0xFDF8, [0x0648, 0x0633, 0x0644, 0x0645]),
    (0xFDF9, [0x0635, 0x0644, 0x0649]), (0xFE71, [0x0640, 0x064B]), (0xFE77, [0x0640, 0x064E]),
    (0xFE79, [0x0640, 0x064F]), (0xFE7B, [0x0640, 0x0650]), (0xFE7D, [0x0640, 0x0651]),
    (0xFE7F, [0x0640, 0x0652]), (0xFE81, [0x0627, 0x0653]), (0xFE82, [0x0627, 0x0653]),
    (0xFE83, [0x0627, 0x0654]), (0xFE84, [0x0627, 0x0654]), (0xFE85, [0x0648, 0x0654]),
    (0xFE86, [0x0648, 0x0654]), (0xFE87, [0x0627, 0x0655]), (0xFE88, [0x0627, 0x0655]),
    (0xFE89, [0x064A, 0x0654]), (0xFE8A, [0x064A, 0x0654]), (0xFE8B, [0x064A, 0x0654]),
    (0xFE8C, [0x064A, 0x0654]), (0xFEF5, [0x0644, 0x0627, 0x0653]),
    (0xFEF6, [0x0644, 0x0627, 0x0653]), (0xFEF7, [0x0644, 0x0627, 0x0654]),
    (0xFEF8, [0x0644, 0x0627, 0x0654]), (0xFEF9, [0x0644, 0x0627, 0x0655]),
    (0xFEFA, [0x0644, 0x0627, 0x0655]), (0xFEFB, [0x0644, 0x0627]), (0xFEFC, [0x0644, 0x0627])]

end LineScript.Text.Normal
