/-! Properties of the characters that a domain name may hold: which are marks, how they join their
neighbours and in which direction they run. Numbers are hexadecimal. -/

namespace PageRules.Url.Domain

/-- Marks that combine with the character before them. -/
def markRows : List String :=
  ["300-36F 483-489 591-5BD 5BF 5C1-5C2 5C4-5C5 5C7 610-61A 64B-65F 670 6D6-6DC 6DF-6E4 6E7-6E8",
   "6EA-6ED 711 730-74A 7A6-7B0 7EB-7F3 7FD 816-819 81B-823 825-827 829-82D 859-85B 897-89F",
   "8CA-903 93A-93C 93E-94F 951-957 962-963 981-983 9BC 9BE-9CD 9D7 9E2-9E3 9FE-A03 A3C-A51",
   "A70-A71 A75 A81-A83 ABC ABE-ACD AE2-AE3 AFA-B03 B3C B3E-B57 B62-B63 B82 BBE-BCD BD7 C00-C04",
   "C3C C3E-C56 C62-C63 C81-C83 CBC CBE-CD6 CE2-CE3 CF3-D03 D3B-D3C D3E-D4D D57 D62-D63 D81-D83",
   "DCA-DDF DF2-DF3 E31 E34-E3A E47-E4E EB1 EB4-EBC EC8-ECE F18-F19 F35 F37 F39 F3E-F3F F71-F84",
   "F86-F87 F8D-FBC FC6 102B-103E 1056-1059 105E-1060 1062-1064 1067-106D 1071-1074 1082-108D",
   "108F 109A-109D 135D-135F 1712-1715 1732-1734 1752-1753 1772-1773 17B6-17D3 17DD 1885-1886",
   "18A9 1920-193B 1A17-1A1B 1A55-1A7F 1AB0-1B04 1B34-1B44 1B6B-1B73 1B80-1B82 1BA1-1BAD",
   "1BE6-1BF3 1C24-1C37 1CD0-1CD2 1CD4-1CE8 1CED 1CF4 1CF7-1CF9 1DC0-1DFF 20D0-20F0 2CEF-2CF1",
   "2D7F 2DE0-2DFF 302A-302F 3099-309A A66F-A672 A674-A67D A69E-A69F A6F0-A6F1 A802 A806 A80B",
   "A823-A827 A82C A880-A881 A8B4-A8C5 A8E0-A8F1 A8FF A926-A92D A947-A953 A980-A983 A9B3-A9C0",
   "A9E5 AA29-AA36 AA43 AA4C-AA4D AA7B-AA7D AAB0 AAB2-AAB4 AAB7-AAB8 AABE-AABF AAC1 AAEB-AAEF",
   "AAF5-AAF6 ABE3-ABEA ABEC-ABED FB1E FE20-FE2F 101FD 102E0 10376-1037A 10A01-10A0F 10A38-10A3F",
   "10AE5-10AE6 10D24-10D27 10D69-10D6D 10EAB-10EAC 10EFA-10EFF 10F46-10F50 10F82-10F85",
   "11000-11002 11038-11046 11070 11073-11074 1107F-11082 110B0-110BA 110C2 11100-11102",
   "11127-11134 11145-11146 11173 11180-11182 111B3-111C0 111C9-111CC 111CE-111CF 1122C-11237",
   "1123E 11241 112DF-112EA 11300-11303 1133B-1133C 1133E-1134D 11357 11362-11374 113B8-113D0",
   "113D2 113E1-113E2 11435-11446 1145E 114B0-114C3 115AF-115C0 115DC-115DD 11630-11640",
   "116AB-116B7 1171D-1172B 1182C-1183A 11930-1193E 11940 11942-11943 119D1-119E0 119E4",
   "11A01-11A0A 11A33-11A39 11A3B-11A3E 11A47 11A51-11A5B 11A8A-11A99 11B60-11B67 11C2F-11C3F",
   "11C92-11CB6 11D31-11D45 11D47 11D8A-11D97 11EF3-11EF6 11F00-11F01 11F03 11F34-11F42 11F5A",
   "13440 13447-13455 1611E-1612F 16AF0-16AF4 16B30-16B36 16F4F 16F51-16F92 16FE4-16FF1",
   "1BC9D-1BC9E 1CF00-1CF46 1D165-1D169 1D16D-1D182 1D185-1D18B 1D1AA-1D1AD 1D242-1D244",
   "1DA00-1DA36 1DA3B-1DA6C 1DA75 1DA84 1DA9B-1DAAF 1E000-1E08F 1E130-1E136 1E2AE 1E2EC-1E2EF",
   "1E4EC-1E4EF 1E5EE-1E5EF 1E6E3 1E6E6 1E6EE-1E6EF 1E6F5 1E8D0-1E8D6 1E944-1E94A"]

/-- How letters join: `D` on both sides, `L` with the next one, `R` with the one before; `T` marks
what does not stand in the way. -/
def joiningRows : List String :=
  ["300-36F=T 483-489=T 591-5BD=T 5BF=T 5C1-5C2=T 5C4-5C5=T 5C7=T 610-61A=T 620=D 622-625=R",
   "626=D 627=R 628=D 629=R 62A-62E=D 62F-632=R 633-63F=D 641-647=D 648=R 649-64A=D 64B-65F=T",
   "66E-66F=D 670=T 671-673=R 679-687=D 688-699=R 69A-6BF=D 6C0=R 6C1-6C2=D 6C3-6CB=R 6CC=D",
   "6CD=R 6CE=D 6CF=R 6D0-6D1=D 6D2-6D3=R 6D5=R 6D6-6DC=T 6DF-6E4=T 6E7-6E8=T 6EA-6ED=T",
   "6EE-6EF=R 6FA-6FC=D 6FF=D 710=R 711=T 712-714=D 715-719=R 71A-71D=D 71E=R 71F-727=D 728=R",
   "729=D 72A=R 72B=D 72C=R 72D-72E=D 72F=R 730-74A=T 74D=R 74E-758=D 759-75B=R 75C-76A=D",
   "76B-76C=R 76D-770=D 771=R 772=D 773-774=R 775-777=D 778-779=R 77A-77F=D 7A6-7B0=T 7CA-7EA=D",
   "7EB-7F3=T 7FD=T 816-819=T 81B-823=T 825-827=T 829-82D=T 840=R 841-845=D 846-847=R 848=D",
   "849=R 84A-853=D 854=R 855=D 856-858=R 859-85B=T 860=D 862-865=D 867=R 868=D 869-882=R 886=D",
   "889-88D=D 88E=R 88F=D 897-89F=T 8A0-8A9=D 8AA-8AC=R 8AE=R 8AF-8B0=D 8B1-8B2=R 8B3-8B8=D",
   "8B9=R 8BA-8C8=D 8CA-902=T 93A=T 93C=T 941-948=T 94D=T 951-957=T 962-963=T 981=T 9BC=T",
   "9C1-9C4=T 9CD=T 9E2-9E3=T 9FE-A02=T A3C=T A41-A51=T A70-A71=T A75=T A81-A82=T ABC=T",
   "AC1-AC8=T ACD=T AE2-AE3=T AFA-B01=T B3C=T B3F=T B41-B44=T B4D-B56=T B62-B63=T B82=T BC0=T",
   "BCD=T C00=T C04=T C3C=T C3E-C40=T C46-C56=T C62-C63=T C81=T CBC=T CBF=T CC6=T CCC-CCD=T",
   "CE2-CE3=T D00-D01=T D3B-D3C=T D41-D44=T D4D=T D62-D63=T D81=T DCA=T DD2-DD6=T E31=T",
   "E34-E3A=T E47-E4E=T EB1=T EB4-EBC=T EC8-ECE=T F18-F19=T F35=T F37=T F39=T F71-F7E=T",
   "F80-F84=T F86-F87=T F8D-FBC=T FC6=T 102D-1030=T 1032-1037=T 1039-103A=T 103D-103E=T",
   "1058-1059=T 105E-1060=T 1071-1074=T 1082=T 1085-1086=T 108D=T 109D=T 135D-135F=T 1712-1714=T",
   "1732-1733=T 1752-1753=T 1772-1773=T 17B7-17BD=T 17C6=T 17C9-17D3=T 17DD=T 1807=D 1820-1878=D",
   "1885-1886=T 1887-18A8=D 18A9=T 18AA=D 1920-1922=T 1927-1928=T 1932=T 1939-193B=T 1A17-1A18=T",
   "1A1B=T 1A56=T 1A58-1A60=T 1A62=T 1A65-1A6C=T 1A73-1A7F=T 1AB0-1B03=T 1B34=T 1B36-1B3A=T",
   "1B3C=T 1B42=T 1B6B-1B73=T 1B80-1B81=T 1BA2-1BA5=T 1BA8-1BA9=T 1BAB-1BAD=T 1BE6=T 1BE8-1BE9=T",
   "1BED=T 1BEF-1BF1=T 1C2C-1C33=T 1C36-1C37=T 1CD0-1CD2=T 1CD4-1CE0=T 1CE2-1CE8=T 1CED=T 1CF4=T",
   "1CF8-1CF9=T 1DC0-1DFF=T 20D0-20F0=T 2CEF-2CF1=T 2D7F=T 2DE0-2DFF=T 302A-302D=T 3099-309A=T",
   "A66F-A672=T A674-A67D=T A69E-A69F=T A6F0-A6F1=T A802=T A806=T A80B=T A825-A826=T A82C=T",
   "A840-A871=D A872=L A8C4-A8C5=T A8E0-A8F1=T A8FF=T A926-A92D=T A947-A951=T A980-A982=T A9B3=T",
   "A9B6-A9B9=T A9BC-A9BD=T A9E5=T AA29-AA2E=T AA31-AA32=T AA35-AA36=T AA43=T AA4C=T AA7C=T",
   "AAB0=T AAB2-AAB4=T AAB7-AAB8=T AABE-AABF=T AAC1=T AAEC-AAED=T AAF6=T ABE5=T ABE8=T ABED=T",
   "FB1E=T FE20-FE2F=T 101FD=T 102E0=T 10376-1037A=T 10A01-10A0F=T 10A38-10A3F=T 10AC0-10AC4=D",
   "10AC5=R 10AC7=R 10AC9-10ACA=R 10ACD=L 10ACE-10AD2=R 10AD3-10AD6=D 10AD7=L 10AD8-10ADC=D",
   "10ADD=R 10ADE-10AE0=D 10AE1=R 10AE4=R 10AE5-10AE6=T 10AEB-10AEE=D 10AEF=R 10B80=D 10B81=R",
   "10B82=D 10B83-10B85=R 10B86-10B88=D 10B89=R 10B8A-10B8B=D 10B8C=R 10B8D=D 10B8E-10B8F=R",
   "10B90=D 10B91=R 10BA9-10BAC=R 10BAD-10BAE=D 10D00=L 10D01-10D21=D 10D22=R 10D23=D",
   "10D24-10D27=T 10D69-10D6D=T 10EAB-10EAC=T 10EC2=R 10EC3-10EC4=D 10EC6-10EC7=D 10EFA-10EFF=T",
   "10F30-10F32=D 10F33=R 10F34-10F44=D 10F46-10F50=T 10F51-10F53=D 10F54=R 10F70-10F73=D",
   "10F74-10F75=R 10F76-10F81=D 10F82-10F85=T 10FB0=D 10FB2-10FB3=D 10FB4-10FB6=R 10FB8=D",
   "10FB9-10FBA=R 10FBB-10FBC=D 10FBD=R 10FBE-10FBF=D 10FC1=D 10FC2-10FC3=R 10FC4=D 10FC9=R",
   "10FCA=D 10FCB=L 11001=T 11038-11046=T 11070=T 11073-11074=T 1107F-11081=T 110B3-110B6=T",
   "110B9-110BA=T 110C2=T 11100-11102=T 11127-1112B=T 1112D-11134=T 11173=T 11180-11181=T",
   "111B6-111BE=T 111C9-111CC=T 111CF=T 1122F-11231=T 11234=T 11236-11237=T 1123E=T 11241=T",
   "112DF=T 112E3-112EA=T 11300-11301=T 1133B-1133C=T 11340=T 11366-11374=T 113BB-113C0=T",
   "113CE=T 113D0=T 113D2=T 113E1-113E2=T 11438-1143F=T 11442-11444=T 11446=T 1145E=T",
   "114B3-114B8=T 114BA=T 114BF-114C0=T 114C2-114C3=T 115B2-115B5=T 115BC-115BD=T 115BF-115C0=T",
   "115DC-115DD=T 11633-1163A=T 1163D=T 1163F-11640=T 116AB=T 116AD=T 116B0-116B5=T 116B7=T",
   "1171D=T 1171F=T 11722-11725=T 11727-1172B=T 1182F-11837=T 11839-1183A=T 1193B-1193C=T",
   "1193E=T 11943=T 119D4-119DB=T 119E0=T 11A01-11A0A=T 11A33-11A38=T 11A3B-11A3E=T 11A47=T",
   "11A51-11A56=T 11A59-11A5B=T 11A8A-11A96=T 11A98-11A99=T 11B60=T 11B62-11B64=T 11B66=T",
   "11C30-11C3D=T 11C3F=T 11C92-11CA7=T 11CAA-11CB0=T 11CB2-11CB3=T 11CB5-11CB6=T 11D31-11D45=T",
   "11D47=T 11D90-11D91=T 11D95=T 11D97=T 11EF3-11EF4=T 11F00-11F01=T 11F36-11F3A=T 11F40=T",
   "11F42=T 11F5A=T 13440=T 13447-13455=T 1611E-16129=T 1612D-1612F=T 16AF0-16AF4=T",
   "16B30-16B36=T 16F4F=T 16F8F-16F92=T 16FE4=T 1BC9D-1BC9E=T 1CF00-1CF46=T 1D167-1D169=T",
   "1D17B-1D182=T 1D185-1D18B=T 1D1AA-1D1AD=T 1D242-1D244=T 1DA00-1DA36=T 1DA3B-1DA6C=T 1DA75=T",
   "1DA84=T 1DA9B-1DAAF=T 1E000-1E08F=T 1E130-1E136=T 1E2AE=T 1E2EC-1E2EF=T 1E4EC-1E4EF=T",
   "1E5EE-1E5EF=T 1E6E3=T 1E6E6=T 1E6EE-1E6EF=T 1E6F5=T 1E8D0-1E8D6=T 1E922-1E943=D",
   "1E944-1E94B=T"]

/-- Characters that do not run from left to right: `R` letters that run from right to left, `E` and
`A` digits of the two kinds, `N` marks without a width and `O` all that is neutral. -/
def directionRows : List String :=
  ["0-2F=O 30-39=E 3A-60=O 7B-D7=O F7=O 2B9-2BA=O 2C2-2CF=O 2D2-2ED=O 2EF-2FF=O 300-36F=N 375=O",
   "3F6=O 483-489=N 58A-58F=O 591-5BD=N 5BE=R 5BF=N 5C0=R 5C1-5C2=N 5C3=R 5C4-5C5=N 5C6=R 5C7=N",
   "5D0-5F4=R 606-607=O 608=R 609-60A=O 60B=R 60C=O 60D=R 60E-60F=O 610-61A=N 61B-64A=R",
   "64B-65F=N 660-669=A 66A=O 66B-66C=A 66D-66F=R 670=N 671-6D5=R 6D6-6DC=N 6DE=O 6DF-6E4=N",
   "6E5-6E6=R 6E7-6E8=N 6E9=O 6EA-6ED=N 6EE-6EF=R 6F0-6F9=E 6FA-710=R 711=N 712-72F=R 730-74A=N",
   "74D-7A5=R 7A6-7B0=N 7B1-7EA=R 7EB-7F3=N 7F4-7F5=R 7F6-7F9=O 7FA=R 7FD=N 7FE-815=R 816-819=N",
   "81A=R 81B-823=N 824=R 825-827=N 828=R 829-82D=N 830-858=R 859-85B=N 85E-88F=R 897-89F=N",
   "8A0-8C9=R 8CA-902=N 93A=N 93C=N 941-948=N 94D=N 951-957=N 962-963=N 981=N 9BC=N 9C1-9C4=N",
   "9CD=N 9E2-9E3=N 9F2-9F3=O 9FB=O 9FE-A02=N A3C=N A41-A51=N A70-A71=N A75=N A81-A82=N ABC=N",
   "AC1-AC8=N ACD=N AE2-AE3=N AF1=O AFA-B01=N B3C=N B3F=N B41-B44=N B4D-B56=N B62-B63=N B82=N",
   "BC0=N BCD=N BF3-BFA=O C00=N C04=N C3C=N C3E-C40=N C46-C56=N C62-C63=N C78-C7E=O C81=N CBC=N",
   "CCC-CCD=N CE2-CE3=N D00-D01=N D3B-D3C=N D41-D44=N D4D=N D62-D63=N D81=N DCA=N DD2-DD6=N",
   "E31=N E34-E3A=N E3F=O E47-E4E=N EB1=N EB4-EBC=N EC8-ECE=N F18-F19=N F35=N F37=N F39=N",
   "F3A-F3D=O F71-F7E=N F80-F84=N F86-F87=N F8D-FBC=N FC6=N 102D-1030=N 1032-1037=N 1039-103A=N",
   "103D-103E=N 1058-1059=N 105E-1060=N 1071-1074=N 1082=N 1085-1086=N 108D=N 109D=N 135D-135F=N",
   "1390-1399=O 1400=O 169B-169C=O 1712-1714=N 1732-1733=N 1752-1753=N 1772-1773=N 17B7-17BD=N",
   "17C6=N 17C9-17D3=N 17DB=O 17DD=N 17F0-180A=O 1885-1886=N 18A9=N 1920-1922=N 1927-1928=N",
   "1932=N 1939-193B=N 1940-1945=O 19DE-19FF=O 1A17-1A18=N 1A1B=N 1A56=N 1A58-1A60=N 1A62=N",
   "1A65-1A6C=N 1A73-1A7F=N 1AB0-1B03=N 1B34=N 1B36-1B3A=N 1B3C=N 1B42=N 1B6B-1B73=N 1B80-1B81=N",
   "1BA2-1BA5=N 1BA8-1BA9=N 1BAB-1BAD=N 1BE6=N 1BE8-1BE9=N 1BED=N 1BEF-1BF1=N 1C2C-1C33=N",
   "1C36-1C37=N 1CD0-1CD2=N 1CD4-1CE0=N 1CE2-1CE8=N 1CED=N 1CF4=N 1CF8-1CF9=N 1DC0-1DFF=N",
   "200C-20C1=O 20D0-20F0=N 2104-214D=O 218A-2335=O 237B-2394=O 2396-26AB=O 26AD-27FF=O",
   "2900-2BFF=O 2CE5-2CEA=O 2CEF-2CF1=N 2CF9-2CFF=O 2D7F=N 2DE0-2DFF=N 2E00-3004=O 3008-3020=O",
   "302A-302D=N 3030=O 3037=O 303D-303F=O 3099-309A=N 30A0=O 30FB=O 31C0-31E5=O 4DC0-4DFF=O",
   "A490-A4C6=O A60D-A60F=O A66F-A672=N A673=O A674-A67D=N A67E-A67F=O A69E-A69F=N A6F0-A6F1=N",
   "A700-A721=O A788=O A802=N A806=N A80B=N A825-A826=N A828-A82B=O A82C=N A838-A839=O",
   "A874-A877=O A8C4-A8C5=N A8E0-A8F1=N A8FF=N A926-A92D=N A947-A951=N A980-A982=N A9B3=N",
   "A9B6-A9B9=N A9BC-A9BD=N A9E5=N AA29-AA2E=N AA31-AA32=N AA35-AA36=N AA43=N AA4C=N AA7C=N",
   "AAB0=N AAB2-AAB4=N AAB7-AAB8=N AABE-AABF=N AAC1=N AAEC-AAED=N AAF6=N AB6A-AB6B=O ABE5=N",
   "ABE8=N ABED=N FB1E=N FBB2-FBC2=R FBC3-FDFF=O FE20-FE2F=N FE45-FE46=O FE73=R 10101=O",
   "10140-1018C=O 10190-101A0=O 101FD=N 102E0=N 102E1-102FB=E 10376-1037A=N 10800-1091B=R",
   "1091F=O 10920-10A00=R 10A01-10A0F=N 10A10-10A35=R 10A38-10A3F=N 10A40-10AE4=R 10AE5-10AE6=N",
   "10AEB-10B35=R 10B39-10B3F=O 10B40-10D23=R 10D24-10D27=N 10D30-10D49=A 10D4A-10D4F=R",
   "10D69-10D6D=N 10D6E=O 10D6F-10D8F=R 10E60-10E7E=A 10E80-10EA9=R 10EAB-10EAC=N 10EAD-10EC7=R",
   "10ED0-10ED8=O 10EFA-10EFF=N 10F00-10F45=R 10F46-10F50=N 10F51-10F81=R 10F82-10F85=N",
   "10F86-10FF6=R 11001=N 11038-11046=N 11052-11065=O 11070=N 11073-11074=N 1107F-11081=N",
   "110B3-110B6=N 110B9-110BA=N 110C2=N 11100-11102=N 11127-1112B=N 1112D-11134=N 11173=N",
   "11180-11181=N 111B6-111BE=N 111C9-111CC=N 111CF=N 1122F-11231=N 11234=N 11236-11237=N",
   "1123E=N 11241=N 112DF=N 112E3-112EA=N 11300-11301=N 1133B-1133C=N 11340=N 11366-11374=N",
   "113BB-113C0=N 113CE=N 113D0=N 113D2=N 113E1-113E2=N 11438-1143F=N 11442-11444=N 11446=N",
   "1145E=N 114B3-114B8=N 114BA=N 114BF-114C0=N 114C2-114C3=N 115B2-115B5=N 115BC-115BD=N",
   "115BF-115C0=N 115DC-115DD=N 11633-1163A=N 1163D=N 1163F-11640=N 11660-1166C=O 116AB=N",
   "116AD=N 116B0-116B5=N 116B7=N 1171D-1171F=N 11722-11725=N 11727-1172B=N 1182F-11837=N",
   "11839-1183A=N 1193B-1193C=N 1193E=N 11943=N 119D4-119DB=N 119E0=N 11A01-11A06=N",
   "11A09-11A0A=N 11A33-11A38=N 11A3B-11A3E=N 11A47=N 11A51-11A56=N 11A59-11A5B=N 11A8A-11A96=N",
   "11A98-11A99=N 11B60=N 11B62-11B64=N 11B66=N 11C30-11C3D=N 11C92-11CA7=N 11CAA-11CB0=N",
   "11CB2-11CB3=N 11CB5-11CB6=N 11D31-11D45=N 11D47=N 11D90-11D91=N 11D95=N 11D97=N",
   "11EF3-11EF4=N 11F00-11F01=N 11F36-11F3A=N 11F40=N 11F42=N 11F5A=N 11FD5-11FF1=O 13440=N",
   "13447-13455=N 1611E-16129=N 1612D-1612F=N 16AF0-16AF4=N 16B30-16B36=N 16F4F=N 16F8F-16F92=N",
   "16FE2=O 16FE4=N 1BC9D-1BC9E=N 1CC00-1CEF0=O 1CF00-1CF46=N 1D167-1D169=N 1D17B-1D182=N",
   "1D185-1D18B=N 1D1AA-1D1AD=N 1D1E9-1D241=O 1D242-1D244=N 1D245=O 1D300-1D356=O 1DA00-1DA36=N",
   "1DA3B-1DA6C=N 1DA75=N 1DA84=N 1DA9B-1DAAF=N 1E000-1E08F=N 1E130-1E136=N 1E2AE=N",
   "1E2EC-1E2EF=N 1E2FF=O 1E4EC-1E4EF=N 1E5EE-1E5EF=N 1E6E3=N 1E6E6=N 1E6EE-1E6EF=N 1E6F5=N",
   "1E800-1E8CF=R 1E8D0-1E8D6=N 1E922-1E943=R 1E944-1E94A=N 1E94B-1ED3D=R 1EEF0-1F12F=O",
   "1F16D-1F16F=O 1F1AD=O 1F260-1FBFA=O"]

end PageRules.Url.Domain
