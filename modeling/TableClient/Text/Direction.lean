import TableClient.Text.Runs
/-! The directions in which characters are written. -/
namespace TableClient.Text

inductive Direction
  | leftToRight
  /-- Letters of Hebrew, Arabic and the like. -/
  | rightToLeft
  | arabicNumber
  | europeanNumber
  /-- Signs and separators that go along with what is around them. -/
  | neutral
  /-- Marks that go along with the character before them. -/
  | mark
  /-- Blanks, and controls of direction. -/
  | other
deriving DecidableEq, Repr

namespace Direction

def read? : List Char → Option Direction
  | ['L'] => some .leftToRight
  | ['R'] => some .rightToLeft
  | ['A'] => some .arabicNumber
  | ['E'] => some .europeanNumber
  | ['N'] => some .neutral
  | ['M'] => some .mark
  | ['O'] => some .other
  | _ => none

def lines : List String := [
  "0:N 9:O e:N 1c:O 21:N 30:E 3a:N 41:L 5b:N 61:L 7b:N 85:O 86:N aa:L ab:N b2:E b4:N b5:L b6:N",
  "b9:E ba:L bb:N c0:L d7:N d8:L f7:N f8:L 2b9:N 2bb:L 2c2:N 2d0:L 2d2:N 2e0:L 2e5:N 2ee:L 2ef:N",
  "300:M 370:L 374:N 376:L 37e:N 37f:L 384:N 386:L 387:N 388:L 3f6:N 3f7:L 483:M 48a:L 58a:N",
  "591:M 5be:R 5bf:M 5c0:R 5c1:M 5c3:R 5c4:M 5c6:R 5c7:M 5d0:R 600:A 606:N 608:R 609:N 60b:R",
  "60c:N 60d:R 60e:N 610:M 61b:R 64b:M 660:A 66a:N 66b:A 66d:R 670:M 671:R 6d6:M 6dd:A 6de:N",
  "6df:M 6e5:R 6e7:M 6e9:N 6ea:M 6ee:R 6f0:E 6fa:R 711:M 712:R 730:M 74d:R 7a6:M 7b1:R 7eb:M",
  "7f4:R 7f6:N 7fa:R 7fd:M 7fe:R 816:M 81a:R 81b:M 824:R 825:M 828:R 829:M 830:R 859:M 85e:R",
  "890:A 897:M 8a0:R 8ca:M 8e2:A 8e3:M 903:L 93a:M 93b:L 93c:M 93d:L 941:M 949:L 94d:M 94e:L",
  "951:M 958:L 962:M 964:L 981:M 982:L 9bc:M 9bd:L 9c1:M 9c7:L 9cd:M 9ce:L 9e2:M 9e6:L 9f2:N",
  "9f4:L 9fb:N 9fc:L 9fe:M a03:L a3c:M a3e:L a41:M a59:L a70:M a72:L a75:M a76:L a81:M a83:L",
  "abc:M abd:L ac1:M ac9:L acd:M ad0:L ae2:M ae6:L af1:N af9:L afa:M b02:L b3c:M b3d:L b3f:M",
  "b40:L b41:M b47:L b4d:M b57:L b62:M b66:L b82:M b83:L bc0:M bc1:L bcd:M bd0:L bf3:N c00:M",
  "c01:L c04:M c05:L c3c:M c3d:L c3e:M c41:L c46:M c58:L c62:M c66:L c78:N c7f:L c81:M c82:L",
  "cbc:M cbd:L ccc:M cd5:L ce2:M ce6:L d00:M d02:L d3b:M d3d:L d41:M d46:L d4d:M d4e:L d62:M",
  "d66:L d81:M d82:L dca:M dcf:L dd2:M dd8:L e31:M e32:L e34:M e3f:N e40:L e47:M e4f:L eb1:M",
  "eb2:L eb4:M ebd:L ec8:M ed0:L f18:M f1a:L f35:M f36:L f37:M f38:L f39:M f3a:N f3e:L f71:M",
  "f7f:L f80:M f85:L f86:M f88:L f8d:M fbe:L fc6:M fc7:L 102d:M 1031:L 1032:M 1038:L 1039:M",
  "103b:L 103d:M 103f:L 1058:M 105a:L 105e:M 1061:L 1071:M 1075:L 1082:M 1083:L 1085:M 1087:L",
  "108d:M 108e:L 109d:M 109e:L 135d:M 1360:L 1390:N 13a0:L 1400:N 1401:L 1680:O 1681:L 169b:N",
  "16a0:L 1712:M 1715:L 1732:M 1734:L 1752:M 1760:L 1772:M 1780:L 17b4:M 17b6:L 17b7:M 17be:L",
  "17c6:M 17c7:L 17c9:M 17d4:L 17db:N 17dc:L 17dd:M 17e0:L 17f0:N 180b:M 180e:N 180f:M 1810:L",
  "1885:M 1887:L 18a9:M 18aa:L 1920:M 1923:L 1927:M 1929:L 1932:M 1933:L 1939:M 1940:N 1946:L",
  "19de:N 1a00:L 1a17:M 1a19:L 1a1b:M 1a1e:L 1a56:M 1a57:L 1a58:M 1a61:L 1a62:M 1a63:L 1a65:M",
  "1a6d:L 1a73:M 1a80:L 1ab0:M 1b04:L 1b34:M 1b35:L 1b36:M 1b3b:L 1b3c:M 1b3d:L 1b42:M 1b43:L",
  "1b6b:M 1b74:L 1b80:M 1b82:L 1ba2:M 1ba6:L 1ba8:M 1baa:L 1bab:M 1bae:L 1be6:M 1be7:L 1be8:M",
  "1bea:L 1bed:M 1bee:L 1bef:M 1bf2:L 1c2c:M 1c34:L 1c36:M 1c3b:L 1cd0:M 1cd3:L 1cd4:M 1ce1:L",
  "1ce2:M 1ce9:L 1ced:M 1cee:L 1cf4:M 1cf5:L 1cf8:M 1cfa:L 1dc0:M 1e00:L 1fbd:N 1fbe:L 1fbf:N",
  "1fc2:L 1fcd:N 1fd0:L 1fdd:N 1fe0:L 1fed:N 1ff2:L 1ffd:N 2000:O 200b:N 200e:L 200f:R 2010:N",
  "2028:O 202f:N 205f:O 2060:N 2066:O 206a:N 2070:E 2071:L 2074:E 207a:N 207f:L 2080:E 208a:N",
  "2090:L 20a0:N 20d0:M 2100:N 2102:L 2103:N 2107:L 2108:N 210a:L 2114:N 2115:L 2116:N 2119:L",
  "211e:N 2124:L 2125:N 2126:L 2127:N 2128:L 2129:N 212a:L 212e:N 212f:L 213a:N 213c:L 2140:N",
  "2145:L 214a:N 214e:L 2150:N 2160:L 2189:N 2336:L 237b:N 2395:L 2396:N 2488:E 249c:L 24ea:N",
  "26ac:L 26ad:N 2800:L 2900:N 2c00:L 2ce5:N 2ceb:L 2cef:M 2cf2:L 2cf9:N 2d00:L 2d7f:M 2d80:L",
  "2de0:M 2e00:N 3000:O 3001:N 3005:L 3008:N 3021:L 302a:M 302e:L 3030:N 3031:L 3036:N 3038:L",
  "303d:N 3041:L 3099:M 309b:N 309d:L 30a0:N 30a1:L 30fb:N 30fc:L 31c0:N 31f0:L 321d:N 3220:L",
  "3250:N 3260:L 327c:N 327f:L 32b1:N 32c0:L 32cc:N 32d0:L 3377:N 337b:L 33de:N 33e0:L 33ff:N",
  "3400:L 4dc0:N 4e00:L a490:N a4d0:L a60d:N a610:L a66f:M a673:N a674:M a67e:N a680:L a69e:M",
  "a6a0:L a6f0:M a6f2:L a700:N a722:L a788:N a789:L a802:M a803:L a806:M a807:L a80b:M a80c:L",
  "a825:M a827:L a828:N a82c:M a830:L a838:N a840:L a874:N a880:L a8c4:M a8ce:L a8e0:M a8f2:L",
  "a8ff:M a900:L a926:M a92e:L a947:M a952:L a980:M a983:L a9b3:M a9b4:L a9b6:M a9ba:L a9bc:M",
  "a9be:L a9e5:M a9e6:L aa29:M aa2f:L aa31:M aa33:L aa35:M aa40:L aa43:M aa44:L aa4c:M aa4d:L",
  "aa7c:M aa7d:L aab0:M aab1:L aab2:M aab5:L aab7:M aab9:L aabe:M aac0:L aac1:M aac2:L aaec:M",
  "aaee:L aaf6:M ab01:L ab6a:N ab70:L abe5:M abe6:L abe8:M abe9:L abed:M abf0:L fb1d:R fb1e:M",
  "fb1f:R fb29:N fb2a:R fbc3:N fbd3:R fd3e:N fd50:R fd90:N fd92:R fdc8:N fdf0:R fdfd:N fe00:M",
  "fe10:N fe20:M fe30:N fe70:R feff:N ff10:E ff1a:N ff21:L ff3b:N ff41:L ff5b:N ff66:L ffe0:N",
  "10000:L 10101:N 10102:L 10140:N 1018d:L 10190:N 101d0:L 101fd:M 10280:L 102e0:M 102e1:E",
  "10300:L 10376:M 10380:L 10800:R 1091f:N 10920:R 10a01:M 10a10:R 10a38:M 10a40:R 10ae5:M",
  "10aeb:R 10b39:N 10b40:R 10d24:M 10d30:A 10d40:E 10d4a:R 10d69:M 10d6e:N 10d6f:R 10d8e:N",
  "10e60:A 10e80:R 10eab:M 10ead:R 10ed1:N 10efa:M 10f00:R 10f46:M 10f51:R 10f82:M 10f86:R",
  "11000:L 11001:M 11002:L 11038:M 11047:L 11052:N 11066:L 11070:M 11071:L 11073:M 11075:L",
  "1107f:M 11082:L 110b3:M 110b7:L 110b9:M 110bb:L 110c2:M 110cd:L 11100:M 11103:L 11127:M",
  "1112c:L 1112d:M 11136:L 11173:M 11174:L 11180:M 11182:L 111b6:M 111bf:L 111c9:M 111cd:L",
  "111cf:M 111d0:L 1122f:M 11232:L 11234:M 11235:L 11236:M 11238:L 1123e:M 1123f:L 11241:M",
  "11280:L 112df:M 112e0:L 112e3:M 112f0:L 11300:M 11302:L 1133b:M 1133d:L 11340:M 11341:L",
  "11366:M 11380:L 113bb:M 113c2:L 113ce:M 113cf:L 113d0:M 113d1:L 113d2:M 113d3:L 113e1:M",
  "11400:L 11438:M 11440:L 11442:M 11445:L 11446:M 11447:L 1145e:M 1145f:L 114b3:M 114b9:L",
  "114ba:M 114bb:L 114bf:M 114c1:L 114c2:M 114c4:L 115b2:M 115b8:L 115bc:M 115be:L 115bf:M",
  "115c1:L 115dc:M 11600:L 11633:M 1163b:L 1163d:M 1163e:L 1163f:M 11641:L 11660:N 11680:L",
  "116ab:M 116ac:L 116ad:M 116ae:L 116b0:M 116b6:L 116b7:M 116b8:L 1171d:M 11720:L 11722:M",
  "11726:L 11727:M 11730:L 1182f:M 11838:L 11839:M 1183b:L 1193b:M 1193d:L 1193e:M 1193f:L",
  "11943:M 11944:L 119d4:M 119dc:L 119e0:M 119e1:L 11a01:M 11a07:L 11a09:M 11a0b:L 11a33:M",
  "11a39:L 11a3b:M 11a3f:L 11a47:M 11a50:L 11a51:M 11a57:L 11a59:M 11a5c:L 11a8a:M 11a97:L",
  "11a98:M 11a9a:L 11b60:M 11b61:L 11b62:M 11b65:L 11b66:M 11b67:L 11c30:M 11c3e:L 11c92:M",
  "11ca9:L 11caa:M 11cb1:L 11cb2:M 11cb4:L 11cb5:M 11d00:L 11d31:M 11d46:L 11d47:M 11d50:L",
  "11d90:M 11d93:L 11d95:M 11d96:L 11d97:M 11d98:L 11ef3:M 11ef5:L 11f00:M 11f02:L 11f36:M",
  "11f3e:L 11f40:M 11f41:L 11f42:M 11f43:L 11f5a:M 11fb0:L 11fd5:N 11fff:L 13440:M 13441:L",
  "13447:M 13460:L 1611e:M 1612a:L 1612d:M 16130:L 16af0:M 16af5:L 16b30:M 16b37:L 16f4f:M",
  "16f50:L 16f8f:M 16f93:L 16fe2:N 16fe3:L 16fe4:M 16ff0:L 1bc9d:M 1bc9f:L 1bca0:N 1ccf0:E",
  "1ccfa:N 1cf00:M 1cf50:L 1d167:M 1d16a:L 1d173:N 1d17b:M 1d183:L 1d185:M 1d18c:L 1d1aa:M",
  "1d1ae:L 1d1e9:N 1d242:M 1d245:N 1d2c0:L 1d300:N 1d360:L 1d6db:N 1d6dc:L 1d715:N 1d716:L",
  "1d74f:N 1d750:L 1d789:N 1d78a:L 1d7c3:N 1d7c4:L 1d7ce:E 1d800:L 1da00:M 1da37:L 1da3b:M",
  "1da6d:L 1da75:M 1da76:L 1da84:M 1da85:L 1da9b:M 1df00:L 1e000:M 1e030:L 1e08f:M 1e100:L",
  "1e130:M 1e137:L 1e2ae:M 1e2c0:L 1e2ec:M 1e2f0:L 1e2ff:N 1e4d0:L 1e4ec:M 1e4f0:L 1e5ee:M",
  "1e5f0:L 1e6e3:M 1e6e4:L 1e6e6:M 1e6e7:L 1e6ee:M 1e6f0:L 1e6f5:M 1e6fe:L 1e800:R 1e8d0:M",
  "1e900:R 1e944:M 1e94b:R 1eef0:N 1f100:E 1f10b:N 1f110:L 1f12f:N 1f130:L 1f16a:N 1f170:L",
  "1f1ad:N 1f1e6:L 1f260:N 1fbf0:E 1fbfa:N 20000:L e0001:N e0100:M f0000:L"]

def runs : Array (Run Direction) := Run.ofLines read? lines

def ofChar (c : Char) : Direction := (Run.value? runs c).getD .other

/-- Whether a character calls for writing from right to left. There is none below U+0590. -/
def callsRight (c : Char) : Bool :=
  0x590 ≤ c.toNat && (ofChar c = .rightToLeft || ofChar c = .arabicNumber)

end Direction
end TableClient.Text
