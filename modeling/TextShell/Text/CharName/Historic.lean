/-!
# Names of characters: historic scripts

Each run starts with the code point of its first name; the names that follow are those of the code
points behind it, on as many lines as they need. The letter or sign before a name says how many
characters it shares with the name before it; any other sign in it stands for a word.
-/

namespace TextShell.CharName

/-- Historic scripts, from `U+10000` to `U+1BBFF`. -/
def historic : List (Nat × List String) := [
  (65536, ["aоAR B չB008 Au38 Eu28 Iu61 Ou10 Uu01 DAu45 DEu07 DIu14 DOu51 DUv7 JAu46 JE"]),
  (65549, ["aоAR B չB036 JOu65 JUu77 KAu44 KEu67 KIu70 KOu81 KUv0 MAu13 MEu73 MIu15 MOu23 MUu06 ",
    "NAu24 NEu30 NIu52 NOv5 NUu03 PAu72 PEu39 PIu11 POu50 PUu16 QAu78 QEu21 QIu32 QO"]),
  (65576, ["aоAR B չB060 RAu27 REu53 RIu02 ROu26 RUu31 SAu09 SEu41 SIu12 SOu58 SUv9 TAu04 TEu37 ",
    "TIu05 TOu69 TUu54 WAu75 WEu40 WIv2 WO"]),
  (65596, ["aоAR B չB017 ZAu74 ZE"]),
  (65599, ["aоAR B չB020 ZOv5 A2u43 A3u85 AUu71 DWEu90 DWOu48 NWAu29 PU2u62 PTEu76 RA2u33 RA3u68",
    " RO2v6 TA2u87 TWEu91 Ã"]),
  (65616, ["aоAR Bζ B018t9s22s34s47t9s56s63t4s79s82t3t6t9"]),
  (65664, ["aоAR B IDEOмM B100 MANv2 WOMANv4 DEERv5 EQUIDwF MAREwM STЪIONv6F EWEwM RAMv7F SHE-GO",
    "ATwM HE-GOATv8F SOWwM BOARv9F COWwM BULLu20 WHEATv1дLEYv2 OLлv3 SPICEv5 CYզUSjMONOмM B127 K",
    "APOv8 KANAKOjIDEOмM B130 OILv1 WINEv2jMONOмM B133 AREPAv5 MERIjIDEOмM B140 BRONZEv1 GOLDv2v",
    "5 WOOLv6u50v1 HORNv2v3v4jMONOмM B156 TURO2jIDEOмM B157v8v9 CLOTHu60v1v2 GARMгv3 ARMOURv4v5v",
    "6v7v8v9u70v1v2v3 MONTHv4v6 TREEv7v8v9u80v1v2v3v4v5v9u90v1 HELMETt220 FOOTSTOOLv5 BATHTUBu30",
    " SPEARv1[v2v3 SWORDv4v6u40 WHEELвCHARIOTv1 CHARIOTv2 CHARIOT FRAMEv3 WHEELv5v6jMONOмM B247 ",
    "DIPTEjIDEOмM B248v9u51v2v3v4 DARTv5v6v7v8v9sVESSEL B155!200$1$2$3$4$5$6$7$8$9#10$1$2$3$4$5$",
    "6$7$8$9#21$2$6$7$8$9#50!305"]),
  (65792, ["aAEGEAN WORD Я оwØhCHECKμ"]),
  (65799, ["aAEGEAN с ÍoÃpþoñpлoГpÛoìoÞoեpWгYpօoFORTYpIFTYoГTYpÛTYoìYoÞTYoÍοoÃοpþοoñοpлοoГοpÛοoì",
    "οoÞοoÍςoÃςpþςoñςpлςoГςpÛςoìςoÞςoեςpWгYςpօςoFORTYςpIFTYςoГTYςpÛTYςoìYςoÞTYς"]),
  (65847, ["aAEGEAN Wì BASE UNIToFIRST SUBUNIToSECOND SUBUNIToTHIRD SUBUNIToñTH SUBUNIThDRY MEAS",
    "URE FIRST SUBUNIThLIQUID MEASURE FIRST SUBUNIThMEASURE SECOND SUBUNITpTHIRD SUBUNITaУK ACRO",
    "PHONջATTջÍ QUARж#HALF#DRACHMAxFлzFTYzVEο$THOUSДzFTYςzVE TALгSxե TALгSxFIFTY TALгSxÍο TALгSx",
    "Fлο TALгSxÍς TALгSxFлς TALгS$STAжSxե STAжSxFIFTY STAжSxÍο STAжSxFлο STAжSxÍς STAжSxեς STAжS",
    "xFIFTYς STAжSxե MNASrHERAEUM Í PLETHRONrձSPЦÍrHERMIONЦÍrEPIDAUREAN ÃrձSPЦÃrCYRENAջÃ DRACHMA",
    "SrEPIDAUREAN Ã DRACHMASrTROEZENЦFл$ե* ALжNATE@rHERMIONЦեrMESSENЦեrձSPЦե#օsROEZENЦFIFTY, ALж",
    "NATE@rHERMIONЦFIFTYrձSPЦFIFTY!Íο!TþοrEPIDAUREAN FлοrTROEZENЦFлοsHESPЦFлοrCARYSTЦFлοrNAXЦFлο",
    "rձSPЦÍς!FлςrDELPHջFл MNASrSTRATЦFIFTY MNASgÍ HALF^t ALжNATE@gÃ THIRDS^hþ QUARжS^gYEAR^gTALг",
    "^gDRACHMA^gOBOL^gÃ OBOLS^hþ OBOLS^gñ OBOLS^hл OBOLS^gMETRETES^gKYATHOS BASE^gLITRA^gOUNKIA^",
    "gXESTES^gARTABE^iOURA^gмMMA^gTRYBLIШBASE^gZERO^gÍ QUARж^gSINUSOID^gINDICб^aNOMISMA^"]),
  (65936, ["aROMAN SEXTANS^gUNCIA^gSEMUNCIA^iXTULA^gDIMIDIA SEXTULA^gSILIQUA^gDENARIUS^gQUINARIU",
    "S^gSESжTIUS^gDUPONDIUS^gAS^gCгURIAL^aASCIAζ"]),
  (65952, ["aУKζ TAU RHO"]),
  (66000, ["aPHAISTOS DISC^ PEDESTRIANuLUMвхtTATTOOвхtCAPTлuHILDtWOMANtHELMETtGAUNTLETtTIARAtARR",
    "OWtBOWtSHIELDtCLUBtMANACLESvTTOCKtSAWtLIDtBOOMERйtCARPгRY ЙtDOLIUMtCOMBtSLеtCOLUMNtBEEHлtSH",
    "IPtHORNuIDEtBULLS LEGtCATtRAMtEAGLEtDOVEtTUNNYtBEEtЙ TREEtVINEtPAPYRUStROSETTEtLILYtOX BACK",
    "tFLUTEtмжtSTRւERuMЪ AXEtWAVY BДtÈOBLIQUE ν"]),
  (66176, ["aLYCIAN(AoEoBpHoGoDoIoWoZoTHoJoKoQoLoMoNoMMoNNoUoPoKKoRoSoTpToANoENoHoX"]),
  (66208, ["aCARIAN(AoP2oDoLoUUUoRoLDoA2oQoBoMoOoD2oToSHq2poC-18oUoNNoXoNoTT2oPoSSoIoEoUUUUoKp2o",
    "NDoUUoGp2oSTq2oNGoIIoC-39oTToUUU2oRRoMBq2q3q4oLD2oE2oUUU3"]),
  (66272, ["aCOPTջEPACTςSμnփÍtÃuþtñuлtГuÛtìtÞnс եvWгYvօuFORTYvIFTYuГTYvÛTYuìYuÞTYuÍοuÃοvþοuñοvлο",
    "uГοvÛοuìοuÞο"]),
  (66304, ["aոITALIC(AsBEsKEsDEsEsVEsZEsHEsձsIsKAsELtMtNtSHsOsPEsSHEsKUsERtSsTEsUsEKSsPHEsKHEsEF",
    "tRSsCHEsIIsUUsESSlNUMERиÍtFлtեtFIFTY"]),
  (66349, ["aոITALIC(YEsNORձRN TSEsSOUձRN TSEaGOTHIC(AHSAoBAIRKANoGIBAoDAGSoAIHVUSoQAIRTHRAoIUJA",
    "oHAGLoTHIUTHoEISoKUSMAoLAGUSoMANNAoNAUTHSoJERoURUSoPAIRTHRAoÞTYoRAIDAoSAUILoTEIWSoWINJAoFAI",
    "HUoIGGWSoHWAIRoOTHALoÞο"]),
  (66384, ["aոզMIC(ANsBURsGAIsDOIsEsZHOIsDZHOIsZATAsDZITAsIsKOKEsLEIsMENOEsNENOEsVOOIsPEEIsREIsS",
    "IIsTAIsUsCHERYsSHOOIuCHOOIsYRYtERUsOtOsEFsHAsTSIUsОsYERvItATsIEsYUtAsIAaÈոզMIC(AN$DOI$ZATA$",
    "NENOE$SII"]),
  (66432, ["aUGARITIC(ALPAqBETAqGAMLAqKHAqDELTAqHOqWOqZETAqHքqTETqYODqKAFqSHINqսDAqMEMqDHALqNUNq",
    "ZUqSAMKAqւqPUqSADEqQOPAqRAчqTHANNAqGHւqTOqIqUqSSU"]),
  (66463, ["aUGARITջWORD DIVIDERaոզSIAN^ ArIrUrKAsUrGAsUrXArCArJAsIrTAsUrDAsIsUrTHArPArBArFArNAs",
    "UrMAsIsUrYArVAsIrRAsUrLArSArZArчsSArHA"]),
  (66504, ["aոզSIAN^ AURAMAZDAA#-2#HArXчAYATHIYArDAHYAAUSH!-2rBAGAsUUMISHmWORD DIVIDERmс ÍtÃuENu",
    "WгYtHUNDRED"]),
  (66560, ["aDESERET >(АI$E$A%H$O%OxИ I%E%A&H%O&OxAYxOWxWUxYEExHxPEExBEExTEExDEExCHEExJEExKAYxGA",
    "YxEFxVEExETHxձExESxZEExESHxZHEExERyLyMyNzGxOIxEWi?(АI!E!A#H!O#OvИ I#E#A$H#O$OvAYvOWvWUvYEEv",
    "HvPEEvBEEvTEEvDEEvCHEEvJEEvKAYvGAYvEFvVEEvETHvձEvESvZEEvESHvZHEEvERwLwMwNxGvOIvEWaчVIAN(PEE",
    "PpTOTpKICKpFEEpTHIGHpSOqUREpCHURCHpYEApHUNGpBIBpDEADpGAGpVOWpձYpZOOpMEASUREpJUDGEpWOEpHA-HA",
    "pLOLLpMIMEpIFpEGGpЬqDOpONpWOOLpOUTpAHpROARpNUNpEATpAGEpICEpUPpOAKqOZEqILpAWEqREpORpAIRpERRp",
    "ARRAYpEARpIANpYEWaOSMANYA(րFpBApTApJApXApKHApDEELpRApSAqHIINpDHApCAYNpGApFApQAAFpKAAFpLAANp",
    "MIINpNUUNpWAWpHApYApApEpIpOpUpAApEEpOO"]),
  (66720, ["aOSMANYA áoÍoÃpþoñpлoГpÛoìoÞ"]),
  (66736, ["aOSAGE >(AwIxNwHvBRAvCHAvEHCHAwwINvHAwYAvIvKAvEHKAvKYAvLAvMAvNAvOwINvPAvEHPAvSAwHAvT",
    "AvEHTAvTSAvEHTSAvTчvDHAvUvWAvKHAvGHAvZAwHA"]),
  (66776, ["aOSAGE ?(AuIvNuHtBRAtCHAtEHCHAuuINtHAuYAtItKAtEHKAtKYAtLAtMAtNAtOuINtPAtEHPAtSAuHAtT",
    "AtEHTAtTSAtEHTSAtTчtDHAtUtWAtKHAtGHAtZAuHA"]),
  (66816, ["aELBASAN(ApBEpCEqHEpDEpNDEpDHEpEIqpFEpGEqJEpHEpIpJEpKEpLEqLEpMEpNEqAqJEpOpPEpQEpREqR",
    "EpSEqHEpTEqHEpUpVEpXEpYpZEqHEpGHErAMMApKHE"]),
  (66864, ["aCAUCASЦALBANIAN(ALT!BET!GIM!DAT!EB!ZARL!EYN!ZHIL!TAS!CHA!YOWD!ZHA!IRB!ч!LAN!INYA!XE",
    "YN!DYAN!CAR!JHOX!KAR!LYIT!HEYT!QAY!AOR!CHOY$I#YAY!MAQ!QAR!NOWC!DZYAY!чK!JAYN!ON!TYAY!FAM!DZ",
    "AY!CHAT!PEN!GHEYS!RAT!SEYK!VEYZ!TIWR!SHOY!IWN!CYAW#AYN!YAYD!PIWR!KIW"]),
  (66927, ["aCAUCASЦALBANЦCITAбμaVITHKUQI >(AyBBEzEyCEzHEyDEzHEyEIzyFEyGA"]),
  (66940, ["aVITHKUQI >(HAzHAyIzJEyJEyKAyLAzLAyMEyNEzJEyOyPEyQAyRE"]),
  (66956, ["aVITHKUQI >(SEzHEyTEzHEyUyVEyXE"]),
  (66964, ["aVITHKUQI >(YyZE"]),
  (66967, ["aVITHKUQI ?(AwBBExEwCExHEwDExHEwEIxwFEwGA"]),
  (66979, ["aVITHKUQI ?(HAxHAwIxJEwJEwKAwLAxLAwMEwNExJEwOwPEwQAwRE"]),
  (66995, ["aVITHKUQI ?(SExHEwTExHEwUwVEwXE"]),
  (67003, ["aVITHKUQI ?(YwZE"]),
  (67072, ["aоAR A^ AB001s2s3s4s5s6s7s8s9r10s1s3s6s7r20s1tFtMs2tFtMs3tMs4s6s7s8p028BpB029r30s1s4",
    "s7s8s9r40s1s4s5s6s7s8s9r50s1s3s4s5s6s7s8s9r60s1s5s6s7s9r70s3s4s6s7s8s9r80s1s2s5s6s7p100-102",
    "pB118r20p120BpB122s3r31AtBp131CpB164r71r80s8r91p301r2r3r4r5r6r7r8r9AsBsCq10r1r2r3AsBsCr4r5r",
    "6r7r8r9q20r1r2r3r4r5r6r7r8r9q30r1r2r3r4r5r6r7r8r9q40r1r2r3r4r5r6r7r8r9q50r1r2r3r4r5r6r7r8r9",
    "q60r1r2r3r4r5r6r7r8r9q70r1p400-VASr1-VASr2-VASr3-VASr4-VASr5-VASr6-VASr7-VASr8-VASr9-VASq10",
    "-VASr1-VASr2-VASr3-VASr4-VASr5-VASr6-VASr7-VASr8-VASp501r2r3r4r5r6r8r9q10r1r2r3r5r6q20r1r3r",
    "4r5r6r7r8r9q30r1r2r4r5r6r7r8r9q40r1r2r5r7r8r9q50r1r2r3r4r5r6r7r9q63r4r5r6r8r9q70r1r2r3r4r5r",
    "6r7r8r9q80r1r2r3r4r5r6r7r8r9q91r2r4r5r6r8p600r1r2r3r4r6r8r9q10r1r2r3r4r5r6r7r8r9q20r1r2r3r4",
    "r6r7r8r9q34r7r8q40r2r3r4r5r6r8r9q51r2r3r4r5r6r7r8r9q60r1r2r3r4"]),
  (67392, ["aоAR A^ A701 Ar2 Br3 Dr4 Er5 Fr6 Hr7 Jr8 Kr9 Ls-2 L2t3 L3t4 L4t6 L6q10 Wr1 Xr2 Yr3 O",
    "MEGAr4 ABBr5 BBr7 DDq26 EYYYq32 JE"]),
  (67424, ["aоAR A^ A800r1r2r3r4r5r6r7"]),
  (67456, ["aЗ(? > AArUզтTRIйФCOLON$ÌTRIйФCOLONrMЪ AEw> BwB)Á"]),
  (67463, ["aЗ(? DZ DIмPH+)í<CURLxEZH DIмPHx)Щ%Á,]ЩwéEwCLOSвéЕEwFENG DIмPHwRAMS HORNw> GwG)Áw> G",
    ")ÁwH)νw> HwHENG)ÁwØLESS J)ν]ÁwLS DIмPHxZ DIмPHx)BELTw> L)BELTwL)í]BELTxEZH!)íwöY&)BELTwO)νw",
    "> OExLOSвOMEGAwQwöR)АLEG=G LEG]íwR)Щ%FISHÁw> RwTC DIмPH)CURLxS DIмPH+)íxESH DIмPHx)íwV)| Á"]),
  (67506, ["aЗ(? > YqGLOTTиSTOP)νqéGLOTTиSTOP)νqBILABIиCLICKqDгиCLICKqLAжиCLICKqALVEOLAR CLICKqR",
    "ETROFLEX CLICK)íq? S)CURL"]),
  (67584, ["aCYPRIOT չArErIrOrUrJA"]),
  (67592, ["aCYPRIOT չJO"]),
  (67594, ["aCYPRIOT չKAsEsIsOsUrLAsEsIsOsUrMAsEsIsOsUrNAsEsIsOsUrPAsEsIsOsUrRAsEsIsOsUrSAsEsIsO",
    "sUrTAsEsIsOsUrWAsEsIsO"]),
  (67639, ["aCYPRIOT չXAsE"]),
  (67644, ["aCYPRIOT չZA"]),
  (67647, ["aCYPRIOT չZOaIMզIиARAMAIC(րPHyBETHyGIMELyDրTHyHEyWAWyZAYINyHETHyTETHyYODHyKAPHyսEDHy",
    "MEMyNUNySAMEKHyAYINyPEySADHEyQOPHyRESHySHINyTAW"]),
  (67671, ["aIMզIиARAMAջSECб^rс ÍyÃzþzENzWгYyÍο$THOUSДyեςaPALMYRENE(րPHrBETHrGIMELrDրTHrHErWAWrZ",
    "AYINrHETHrTETHrYODHrKAPHrսEDHrMEMrι NUNrNUNrSAMEKHrAYINrPErSADHErQOPHrRESHrSHINrTAWmFT-κ FL",
    "EURONk|-κ FLEURONkс ÍrÃsþrñsлrեsWгYaNABATAEAN(ι րPHrրPHrι BETHrBETHrGIMELrDրTHrι HErHErWAWr",
    "ZAYINrHETHrTETHrι YODHrYODHrι KAPHrKAPHrι սEDHrսEDHrι MEMrMEMrι NUNrNUNrSAMEKHrAYINrPErSADH",
    "ErQOPHrRESHrι SHINrSHINrTAW"]),
  (67751, ["aNABATAEAN с ÍrÃsþrñkCRUCIFORM с ñkс FлrեsWгYrÍο"]),
  (67808, ["aHATRAN(րPHoBETHoGIMELoDրTH-RESHoHEoWAWoZAYNoHETHoTETHoYODHoKAPHoսEDHoMEMoNUNoSAMEKH",
    "oAYNoPEoSADHEoQOPH"]),
  (67828, ["aHATRAN(SHINoTAW"]),
  (67835, ["aHATRAN с ÍoFлoեpWгYoÍοaPHOENICIAN(ALFsBETsGAMLsDELTsHEsWAUsZAIsHETsTETsYODsKAFsսDsM",
    "EMsNUNsSEMKsւsPEsSADEsQOFsROSHsSHINsTAUlс ÍsեtWгYsÍοsÃtþ"]),
  (67871, ["aPHOENICЦWORD ЯaLYDIAN(AoBoGoDoEoVoIoYoKoLoMoNoOoRoSSoToUoFoQoSoTToANoENoLYoNNoC"]),
  (67903, ["aLYDЦTRIйULARμ"]),
  (67968, ["aMEROITջHIEROGLYPHIC(A%E%I%O%YA%WA%BA*-2%PA%MA%NA*-2&E*-2%RA*-2%LA%KHA%HHA%SA*-2&E%K",
    "A%QA%TA*-2&E*-2&O%DAwSYMBOL VIDJ,-2jCURSл(AyEyIyOyYAyWAyBAyPAyMAyNAzEyRAyLAyKHAyHHAySAyլC S",
    "AySEyKAyQAyTAzEzOyDA"]),
  (68028, ["aMEROITջCURSл FRACб ELÛ TWELFTHS!Í HALFrLOGOмM RMT!IMNrс ÍyÃzþyñzлyГzÛyìyÞyեzWгYzօyF",
    "ORTYzIFTYyГTYzÛTY"]),
  (68050, ["aMEROITջCURSл с ÍοyÃοzþοyñοzлοyГοzÛοyìοyÞοyÍςyÃςzþςyñςzлςyГςzÛςyìςyÞςyեςzWгYςzօςyFOR",
    "TYςzIFTYςyГTYςzÛTYςyìYςyÞTYςyÍοςyÃοςzþοςyñοςzлοςyГοςzÛοςyìοςyÞοςrFRACб Í TWELFTH!Ã TWELFTHS",
    "#þ TWELFTHS!ñ TWELFTHS#л TWELFTHS!Г TWELFTHS#Û TWELFTHS!ì TWELFTHS!Þ TWELFTHS!ե TWELFTHSaKH",
    "AROSHTHI(Alò^ IwUwÂR"]),
  (68101, ["aKHAROSHTHI ò^ EwO"]),
  (68108, ["aKHAROSHTHI ò LENGTHμlÖα RеγqÓqКlυKAtHAsGAtHA"]),
  (68117, ["aKHAROSHTHI(CAtHAsJA"]),
  (68121, ["aKHAROSHTHI(NYAsTTAuHAsDDAuHAsNNAsTAtHAsDAtHAsNAsPAtHAsBAtHAsMAsYAsRAsLAsVAsчtSAtAsZ",
    "AsHAsKKAsTTTHAvAsVHA"]),
  (68152, ["aKHAROSHTHI^д_qCAUDAqØγ"]),
  (68159, ["aKHAROSHTHI ռlփÍrÃsþrñlс եtWгYsÍοwTHOUSДlFRACб Í HALF"]),
  (68176, ["aKHAROSHTHI À Øx? äxäyRESCгдxMйAսxLOTUSxDДAyOUBLE DДAxоS"]),
  (68192, ["aոSOUTH ARABIAN(HEzսEDHzHETHzMEMzQOPHzWAWzSHINzRESHzBETHzTAWzSATzKAPHzNUNzKHETHzSADH",
    "E#MEKHzFEzրF!YNzDHADHEzGIMELzDրTHzGHAYNzTETHzZAYNzDHրTHzYODHzTHAW#ETHsс ÍzFIFTYvERջINDICATO",
    "ReNORTH ARABIAN(HEHzսzժzÒzQAFzWAWzES-2zREHzBEHzTEHzES-1zKAFzNOONzKժzSADzES-3zFEHzրF!INzDADz",
    "GEEMzDALzGHւzTAHzZւzTHALzցzձHzZAHsс Ízե!WгY"]),
  (68288, ["aMANICHAEAN(րPHsBETHtHETHsGIMELtHIMELsDրTHsHEsWAWlÖUDlυZAYINtHAYINsJAYINtHAYINsHETHs",
    "TETHsYODHsKAPHsXAPHsKHAPHsսEDHsDHAMEDHsTHAMEDHsMEMsNUNsSAMEKHsAYINtAYINsPEsFEsSADHEsQOPHsXO",
    "PHsQHOPHsRESHsSHINtSHINsTAWlABBREVIAбμ_%BELOW"]),
  (68331, ["aMANICHAEAN с ÍsFлsեtWгYsÍοlÀ հxFLEURONxα Ø WITHIN ØzT WITHIN Ø!xÃÄxо FILLER"]),
  (68352, ["aAVESTAN(AqAqOqAOqNqANqErEpEqEpOqOpIqIpUqUpKEpXEqYEqVEpGEqGEqHEpCEpJEpTEqHEpDEqHEpTT",
    "EpPEpFEpBEqHEpNGErYErVEqEqYEqNEpMEpHMEpYYEqEpVEpREpLEpSEpZEpSHEpZHEpSHYEqSHEpHE"]),
  (68409, ["aAVESTAN ABBREVIAбμaTINY ÃÄüÍ Ø Àa? ÃÄüÍ Ø Àaщ ÃÄüÍ Ø ÀgÍ ØüÃÄ ÀgÃ RеSüÍ RаÀgÍ RеüÃ ",
    "RеS ÀaINSCRIPбиPARTHIAN(րPH&BETH&GIMEL&DրTH&HE&WAW&ZAYIN&HETH&TETH&YODH&KAPH&սEDH&MEM&NUN&S",
    "AMEKH&AYIN&PE&SADHE&QOPH&RESH&SHIN&TAW"]),
  (68440, ["aINSCRIPбиPARTHЦс Í&Ã*þ&ñ&ե*WгY&Íο.THOUSДqHLAVI(րPH%BETH%GIMEL%DրTH%HE%WAW-AYIN-RESH",
    "%ZAYIN%HETH%TETH%YODH%KAPH%սEDH%MEM-QOPH%NUN%SAMEKH%PE%SADHE&HIN%TAW"]),
  (68472, ["aINSCRIPбиPAHLAVI с Í%Ã&þ%ñ%ե&WгY%Íο,THOUSДaPSALж PAHLAVI(րPHxBETHxGIMELxDրTHxHExWAW",
    "-AYIN-RESHxZAYINxHETHxYODHxKAPHxսEDHxMEM-QOPHxNUNxSAMEKHxPExSADHEyHINxTAW"]),
  (68505, ["aPSALж PAHLAVI SECбμqöSECбμqñÄ)к*Ø"]),
  (68521, ["aPSALж PAHLAVI с ÍxÃyþxñxեyWгYxÍο"]),
  (68608, ["aոTURKIC(ORKHШAsЭA#EsORKHШIsЭI!EsORKHШO!EsЭOEsORKHШABsЭABsORKHШAEBsЭAEBsORKHШAGsЭAGs",
    "ORKHШAEGsЭAEGsORKHШADsЭADsORKHШAEDzEZsЭEZsORKHШAYsЭAYsORKHШAEYsЭAEYsORKHШAEKsЭAEKsORKHШOEKs",
    "ЭOEKsORKHШALsЭALsORKHШAELzELT!MzAN!ENsЭAENsORKHШгsЭгsORKHШENCsЭENCsORKHШENYsЭENY!йsORKHШENG",
    "sЭAENGsORKHШEPzOPzICzECsЭECsORKHШAQsЭAQsORKHШIQsЭIQsORKHШOQsЭOQsORKHШARsЭARsORKHШAER!S!ES!S",
    "HsЭЬsORKHШESHsЭESHsORKHШATsЭATsORKHШAETsЭAETsORKHШOTzBЬ"]),
  (68736, ["aոHUNGARЦ>(A&A%EB%AMB%EC&NC&CS&D%Д%E%CLOSE E%EE&F&G*Y&H%I&I%EJ&K%AK%UNK%EL*Y&M&N*Y%O",
    "&O%NIKOLSBURG OE%RUDIMгA OE%OEE%EP&MP&R%И ER%ES*Z&T&NT&TY&CH%U&U%NIKOLSBURG UE%RUDIMгA UE%E",
    "V&Z*S&NT-чPED^%US"]),
  (68800, ["aոHUNGARЦ?(A$A#EB#AMB#EC$NC$CS$D#Д#E#CLOSE E#EE$F$G%Y$H#I$I#EJ$K#AK#UNK#EL%Y$M$N%Y#O",
    "$O#NIKOLSBURG OE#RUDIMгA OE#OEE#EP$MP$R#И ER#ES%Z$T$NT$TY$CH#U$U#NIKOLSBURG UE#RUDIMгA UE#E",
    "V$Z%S$NT-чPED^#US"]),
  (68858, ["aոHUNGARЦс ÍvFлvեvFIFTYvÍοzTHOUSДaHANIFI ROHеYA(AxBAxPAxTAyTAxJAxCAxHAxKHAxFAxDAyDAx",
    "RAyRAxZAxSAyHAxKAxGAxLAxMAxNAxWAxKINNA WAxYAxKINNA YAxNGAyYAxVAqò AwIwUwEwOqMARK SAKINvNA K",
    "HONNAqÖHARBAHAYvTAHALAxNAxSSI"]),
  (68912, ["aHANIFI ROHеYA áwÍwÃxþwñxлwГxÛwìwÞ"]),
  (69216, ["aRUMI փÍlÃmþlñmлlГmÛlìlÞfс եnWгYnօmFORTYnIFTYmГTYnÛTYmìYmÞTYmÍοmÃοnþοmñοnлοmГοnÛοmìο",
    "mÞοfFRACб Í HALFsQUARжsTHIRDoÃ THIRDS"]),
  (69248, ["aYEZIDI(ELIFoBEoPEpHEoձoSEoCIMpHIMqHIMoHHAoXAoDALoZALoRApHAoZAoJAoSINpHINpADoDADoTAo",
    "ZEoEYNoXHEYNoFAoVAq ALжNATE@oQAFoKAFpHAFoGAFoսoMIMoNUNoUMoWAWoOWoEWoHAYoYOToET"]),
  (69291, ["aYEZIDI ÈHAMZAμrMADDAμhHYPHENAбμ"]),
  (69296, ["aYEZIDI(ս)Ø_oYOT)ω_"]),
  (69376, ["aոSOGDIAN(րPHtι րPHtBETHtι BETHtGIMELtHEtι HEtWAWtZAYINtHETHtYODHtKAPHtսEDHtMEMtNUNt",
    "ι NUN$)δ ЩtSAMEKHtAYINuLжNATE AYINtPEtSADHEtι SADHE&)δ ЩtRESH-AYIN-DրTHtSHINtTAWtι TAW$)δ Щ",
    "mс ÍtÃuþtñuлtեuWгYuօtÍοmFRACб Í HALFmLюAYIN-DրTH"]),
  (69424, ["aSOGDIAN(րPHpBETHpGIMELpHEpWAWpZAYINpHETHpYODHpKAPHpսEDHpMEMpNUNpSAMEKHpAYINpPEpSADH",
    "EpRESH-AYINpSHINpTAWpFETHpLESHiINDEPENDг SHINiÈØγsÃÄγsØ_sÃÄ_sCURVE_yBELOWsÁ_xBELOWsАÁγsRESH",
    "γsνγiс ÍpեqWгYpÍοiÀ Ã δдS;)ØSuä)ØuÃ äS)ØSuÌä)Ø"]),
  (69488, ["aոUYGHUR(րPHsBETHsGIMEL-HETHsWAWsZAYINsι HETHsYODHsKAPHsսEDHsMEMsNUNsSAMEKHsPEsSADHE",
    "sRESHsSHINsTAWsLESHlÈØ_zBELOWvÃÄ_&BELOWlÀдxÃдS#ØSxñÄ"]),
  (69552, ["aCHORASMIAN(րPHs? րPHsBETHsGIMELsDրTHsHEsWAWsCURLвWAWsZAYINsHETHsYODHsKAPHsսEDHsMEMs",
    "NUNsSAMEKHsAYINsPEsRESHsSHINsTAWlс ÍsÃtþsñsեtWгYsÍο"]),
  (69600, ["aELYMAIC(րPHpBETHpGIMELpDրTHpHEpWAWpZAYINpHETHpTETHpYODHpKAPHpսEDHpMEMpNUNpSAMEKHpAY",
    "INpPEpSADHEpQOPHpRESHpSHINpTAWjюZAYIN-YODH"]),
  (69632, ["aBRAHMI^ цmÓmКmJIHVAMULIYAmUPADHMANIYAhυApAoIpIoUpUoÂRxRwLxLoEoAIoOoAUoKApHAoGApHAoN",
    "GAoCApHAoJApHAoNYAoTTAqHAoDDAqHAoNNAoTApHAoDApHAoNAoPApHAoBApHAoMAoYAoRAoLAoVAoчpSApAoHAoLL",
    "AoոTAMIL LLLAyRRAyNNNAhò^ AAsBHATTIPROLU AAsItIsUtUsÂR#R!L#LsEsAIsOsAUiIRAMAhDДAiOUBLE DДAh",
    "À ØvUBLE ØtоtCRESCгдtLOTUS"]),
  (69714, ["aBRAHMI с ÍoÃpþoñpлoГpÛoìoÞoեpWгYpօoFORTYpIFTYoГTYpÛTYoìYoÞTYoÍοsTHOUSДhánÍnÃoþnñoлn",
    "ГoÛnìnÞhÖոTAMIL ռhυոTAMIL И E&Ohò^ ոTAMIL И E.OhυոTAMIL LLA"]),
  (69759, ["aBRAHMI с JOINERaKAITHI^ цmÓmКhυApAoIpIoUpUoEoAIoOoAUoKApHAoGApHAoNGAoCApHAoJApHAoNY",
    "AoTTAqHAoDDAqDHAqHAoRHAoNNAoTApHAoDApHAoNAoPApHAoBApHAoMAoYAoRAoLAoVAoчpSApAoHAhò^ AAsItIsU",
    "tUsEsAIsOsAUhÖռmNUKTAhABBREVIAб^hENUMERAб^hс^hSECбμhα SECбμiДAiOUBLE DДAhò^ ÂR"]),
  (69837, ["aKAITHI с^_"]),
  (69840, ["aSORA SOMPENG(SAHuTAHuBAHuCAHuDAHuGAHuMAHuNGAHuLAHuNAHuVAHuPAHuYAHuRAHuժuKAHuJAHuNYA",
    "HuAHuEEHuIHuUHuOHuEHuMAE"]),
  (69872, ["aSORA SOMPENG átÍtÃuþtñuлtГuÛtìtÞ"]),
  (69888, ["aCHAKMA^ цmÓmКhυAAoIoUoEoKAApHAAoGAApHAAoNGAAoCAApHAAoJAApHAAoNYAAoTTAAqHAAoDDAAqHAA",
    "oNNAAoTAApHAAoDAApHAAoNAAoPAApHAAoBAApHAAoMAAoYYAApAAoRAAoLAAoWAAoSAAoHAAhò^ AsItIsUtUsEsAI",
    "sOsAUsOIhOμhAUμhռhMAAYYAA"]),
  (69942, ["aCHAKMA ánÍnÃoþnñoлnГoÛnìnÞhSECбμhDДAiOUBLE DДAhQUESбμhυLHAAhò^ AAsEIhυVAA"]),
  (69968, ["aMAHAJANI(AqIqUqEqOqKArHAqGArHAqCArHAqJArHAqNYAqTTAsHAqDDAsHAqNNAqTArHAqDArHAqNAqPAr",
    "HAqBArHAqMAqRAqLAqVAqSAqHAqRRAjÖNUKTAjABBREVIAб^jSECбμjLюSHRI"]),
  (70016, ["aчRADA^ цnÓnКiυAqApIqIpUqUpÂRyRxLyLpEpAIpOpAUpKAqHApGAqHApNGApCAqHApJAqHApNYApTTArHA",
    "pDDArHApNNApTAqHApDAqHApNApPAqHApBAqHApMApYApRApLAqLApVApчqSAqApHAiò^ AAtIuItUuUtÂR$R#L$LtE",
    "tAItOtAUiÖռnAVAмHAnJIHVAMULIYAnUPADHMANIYAiOMiDДAjOUBLE DДAiABBREVIAб^iЯjДHIμjIGN NUKTAiò З",
    "μiEXTRA И òμiSUTRAμiò^ PRISHTHAMATRA EiÖðцiáoÍoÃpþoñpлoГpÛoìoÞiEKAMiÖSIDDHAMiхνiCONTINUAб^i",
    "SECбμ-1v2"]),
  (70113, ["aSINHALA լC փÍwÃxþwñxлwГxÛwìwÞqс եyWгYyօxFORTYyIFTYxГTYyÛTYxìYxÞTYxÍο#THOUSД"]),
  (70144, ["aKHOJKI(ApAoIoUoEoAIoOoAUoKApHAoGApGApHAoNGAoCApHAoJApJA"]),
  (70163, ["aKHOJKI(NYAoTTAqHAoDDAqHAoNNAoTApHAoDApDDApHAoNAoPApHAoBApBApHAoMAoYAoRAoLAoVAoSAoHA",
    "oLLAhò^ AAsItIsUsEsAIsOsAUhÖÓmռmNUKTAmчDDAhDДAiOUBLE DДAhWORD ЯhSECбμhα SECбμhABBREVIAб^hÖS",
    "UKUN"]),
  (70272, ["aMULTANI(ApIpUpEpKAqHApGA"]),
  (70280, ["aMULTANI(GHA"]),
  (70282, ["aMULTANI(CAqHApJAqJA"]),
  (70287, ["aMULTANI(NYApTTArHApDDArDArHApNNApTAqHApDAqHApNApPAqHApBA"]),
  (70303, ["aMULTANI(BHApMApYApRApLApVApSApHApRRAqHAiSECбμ"]),
  (70320, ["aKHUDAWADI(AsArIsIrUsUrErAIrOrAUrKAsHArGAsGAsHArNGArCAsHArJAsJAsHArNYArTTAtHArDDAtDA",
    "rRRArDDHArNNArTAsHArDAsHArNArPAsHArBAsBAsHArMArYArRArLArVArчsArHAkÖÓkò^ AAvIwIvUwUvEvAIvOvA",
    "UkÖNUKTApռ"]),
  (70384, ["aKHUDAWADI áqÍqÃrþqñrлqГrÛqìqÞ"]),
  (70400, ["aмNTHA^ ÈÓ_oДRABINDUnÓnК"]),
  (70405, ["aмNTHA(AqApIqIpUqUpÂRxL"]),
  (70415, ["aмNTHA(EEpAI"]),
  (70419, ["aмNTHA(OOpAUpKAqHApGAqHApNGApCAqHApJAqHApNYApTTArHApDDArHApNNApTAqHApDAqHApNA"]),
  (70442, ["aмNTHA(PAqHApBAqHApMApYApRA"]),
  (70450, ["aмNTHA(LAqLA"]),
  (70453, ["aмNTHA(VApчqSAqApHA"]),
  (70459, ["aÈBINDUγaмNTHA^ NUKTAnAVAмHAiò^ AAtIuItUuUtÂR$R"]),
  (70471, ["aмNTHA ò^ EEtAI"]),
  (70475, ["aмNTHA ò^ OOtAUiÖռ"]),
  (70480, ["aмNTHA OM"]),
  (70487, ["aмNTHA AU LENGTHμ"]),
  (70493, ["aмNTHA^ PLUTAiυVEDջÓvα ÓqOCALջRRxLLiò^ ÂL$L"]),
  (70502, ["aÈмNTHA áyÍyÃzþyñzлyГ"]),
  (70512, ["aÈмNTHA(AzKAzNAzVIzPA"]),
  (70656, ["aNEWA(AnAmInImUnUmÂRvRuLvLmEmAImOmAUmKAnHAmGAnHAmNGAoHAmCAnHAmJAnHAmNYAoHAmTTAoHAmDD",
    "AoHAmNNAmTAnHAmDAnHAmNAnHAmPAnHAmBAnHAmMAnHAmYAmRAnHAmLAnHAmWAmчnSAnAmHAfò^ AAqIrIqUrUqÂRzR",
    "yLzLqEqAIqOqAUfÖռkцkÓkКkNUKTAkAVAмHAkι ÓfOMfSIDDHIfDДAgOUBLE DДAfПfGAP FILLERfABBREVIAб^fál",
    "ÍlÃmþlñmлlГmÛlìlÞgOUBLE ПfPLACEHOLDERμ"]),
  (70749, ["aNEWA INSERб^fSДHIμfυVEDջÓfÖJIHVAMULIYAkUPADHMANIYA"]),
  (70784, ["aTIRHUTA ANJIiυAqApIqIpUqUpÂRyRxLyLpEpAIpOpAUpKAqHApGAqHApNGApCAqHApJAqHApNYApTTArHA",
    "pDDArHApNNApTAqHApDAqHApNApPAqHApBAqHApMApYApRApLApVApчqSAqApHAiò^ AAtIuItUuUtÂR$R#L$LtEtИ ",
    "EtAItOtИ OtAUiÖцnÓnКpRAMAnNUKTAnAVAмHAiGVйiABBREVIAб^iOM"]),
  (70864, ["aTIRHUTA áoÍoÃpþoñpлoГpÛoìoÞ"]),
  (71040, ["aSIDDHAM(AqApIqIpUqUpÂRyRxLyLpEpAIpOpAUpKAqHApGAqHApNGApCAqHApJAqHApNYApTTArHApDDArH",
    "ApNNApTAqHApDAqHApNApPAqHApBAqHApMApYApRApLApVApчqSAqApHAiò^ AAtIuItUuUtÂR$R"]),
  (71096, ["aSIDDHAM ò^ EtAItOtAUiÖцnÓnКpRAMAnNUKTAnSIDDHAMiDДAjOUBLE DДAiЯ ØsBARiREPETIбμ-1y2y3",
    "iENDûTEXTμiSECбμ)TRIDг]U-чPвËS<ØTвCRESCгS!RAYS]ØTвCRESCгS=вα CRESCгS=вЖCRESCгSvα Rе+)RAYSvW",
    "ITH α CRESCгS!ЖCRESCгS!QUADRUPLE CRESCгS!SEPTUPLE CRESCгS!äS]RAYS<Ã ENCLOSURES<ñ ENCLOSURES",
    "iυTþ-ä ALжNATE IqWO-ä ALжNATE I;IpALжNATE Uiò^ ALжNATE U&U"]),
  (71168, ["aMODI(AnAmInImUnUmÂRvRuLvLmEmAImOmAUmKAnHAmGAnHAmNGAmCAnHAmJAnHAmNYAmTTAoHAmDDAoHAmN",
    "NAmTAnHAmDAnHAmNAmPAnHAmBAnHAmMAmYAmRAmLAmVAmчnSAnAmHAmLLAfò^ AAqIrIqUrUqÂRzRyLzLqEqAIqOqAU",
    "fÖÓkКmRAMAkARDHACДRAfDДAgOUBLE DДAfABBREVIAб^fÖHUVA"]),
  (71248, ["aMODI álÍlÃmþlñmлlГmÛlìlÞ"]),
  (71264, ["aMONGOLЦBIRGA)ËkRքTвBIRGAkα BIRGA)ËkЖBIRGA)ËkBIRGA)α ËkRքTвBIRGA)Ë%α ËkðBIRGAy)α ËkS",
    "WIRL BIRGAv)Ë#α ËköSWIRL BIRGA)α Ë"]),
  (71296, ["aTAKRI(AoAnIoInUoUnEnAInOnAUnKAoHAnGAoHAnNGAnCAoHAnJAoHAnNYAnTTApHAnDDApHAnNNAnTAoHA",
    "nDAoHAnNAnPAoHAnBAoHAnMAnYAnRAnLAnVAnчoAnHAnRRAgÖÓlКgò^ AArIsIrUsUrErAIrOrAUgÖռlNUKTAgυլC K",
    "HAgABBREVIAб^"]),
  (71360, ["aTAKRI ámÍmÃnþmñnлmГnÛmìmÞ"]),
  (71424, ["aAHOM(KAnHAmNGAnAmTAmALжNATE TAmPAnHAmBAmMAmJAmCHAmTHAmRAmLAmSAmNYAmHAmAmDAnHAmGAmAL",
    "жNATE GAmGHAmBHAmJHAmALжNATE BA"]),
  (71453, ["aAHOM դ^ ÿ LA#RA#LIGATаRAfò^ ArAqIrIqUrUqEqAWqOqAIrMfÖKILLER"]),
  (71472, ["aAHOM álÍlÃmþlñmлlГmÛlìlÞfс եnWгYfÖ? SECбlECбkRULAIgYMBOL VIfυCAmTTAoHAmDDAoHAmNNAmL",
    "LA"]),
  (71680, ["aDOм(AoAnIoInUoUnEnAInOnAUnKAoHAnGAoHAnNGAnCAoHAnJAoHAnNYAnTTApHAnDDApHAnNNAnTAoHAnD",
    "AoHAnNAnPAoHAnBAoHAnMAnYAnRAnLAnVAnчoSAoAnHAnRRAgò^ AArIsIrUsUrÂR!RrErAIrOrAUgÖÓlКnRAMAlNUK",
    "TAgABBREVIAб^"]),
  (71840, ["aWARй CITI >(NGAA#A#WI#YU$A$O#II#UU#E#O#й#GA#KO#ENY#YUJ#UC#ENN#ODD#TTE#NUNG#DA#AT$M#",
    "BU#PU#HIYO$OLO%RR$AR#SSUU$II#VIYOm?(NGAAzAzWIzYU!A!OzIIzUUzEzOzйzGAzKOzENYzYUJzUCzENNzODDzT",
    "TEzNUNGzDAzAT!MzBUzPUzHIYO!OLO#RR!ARzSSUU!IIzVIYOmásÍsÃtþsñtлsГtÛsìsÞmс եuWгYuօtFORTYuIFTYt",
    "ГTYuÛTYtìYtÞTY"]),
  (71935, ["aWARй CITI OMaDлS AKURU(AuAtIuItUuUtE"]),
  (71945, ["aDлS AKURU(O"]),
  (71948, ["aDлS AKURU(KAuHAtGAuHAtNGAtCAuHAtJA"]),
  (71957, ["aDлS AKURU(NYAtTTA"]),
  (71960, ["aDлS AKURU(DDAvHAtNNAtTAuHAtDAuHAtNAtPAuHAtBAuHAtMAtYAuYAtRAtLAtVAtчuSAuAtHAtLLAtZAm",
    "ò^ AAxIyIxUyUxE"]),
  (71991, ["aDлS AKURU ò^ AIxO"]),
  (71995, ["aDлS AKURU^ ÓrцrHALANTAmռmPREFIXвNASAL^mÿ YAmη RAmÿ RAmÖNUKTAmα DДAmGAP FILLERmENDûT",
    "EXTμ"]),
  (72016, ["aDлS AKURU ásÍsÃtþsñtлsГtÛsìsÞ"]),
  (72096, ["aNДINAGARI(AuAtIuItUuUtÂR$R"]),
  (72106, ["aNДINAGARI(EtAItOtAUtKAuHAtGAuHAtNGAtCAuHAtJAuHAtNYAtTTAvHAtDDAvHAtNNAtTAuHAtDAuHAtN",
    "AtPAuHAtBAuHAtMAtYAtRAtLAtVAtчuSAuAtHAtLLAtRRAmò^ AAxIyIxUyUxÂR+R"]),
  (72154, ["aNДINAGARI ò^ ExAIxOxAUmÖÓrКtRAMArAVAмHArSIDDHAMmхνmò^ PRISHTHAMATRA E"]),
  (72192, ["aZANABAZAR ê(Arò^ I$UE%$E$OE%$AI%U$éIxLENGTHμrυKAzHAyGAzHAyNGAyCAzHAyJAyNYAyTTA!HAyD",
    "DA!HAyNNAyTAzHAyDAzHAyNAyPAzHAyBAzHAyMAyTSA!HAyDZA!HAyZHAzAy-AyYAyRAyLAyVAyчzSAzAyHAyKSSArι",
    " դμrÖռwц,)Ë$)ËwÓwКrCLUSж-η(RAzι(YA<RA<LA<VArη хμrCLOSахμrMARK TSHEGwчDwα чDwАTSHEGrη α-LINв",
    "хμrCLOSаα-LINвхμrSUBJOINER"]),
  (72272, ["aSOYOMBO(Aiò^ ItUEutEtOuEtAIuUtÂR#LoLENGTHμiυKAqHApGAqHApNGApCAqHApJAqHApNYApTTArHAp",
    "DDArHApNNApTAqHApDAqHApNApPAqHApBAqHApMApTSArHApDZApZHAqAp-ApYApRApLApVApчqSAqApHApKSSAiÖJI",
    "HVAMULIYAnUPADHMANIYAiCLUSж-η(RA*LA*ч+Aiι դ^ G%K%NG%D%N%B%M%R%L%SH&%-AiÖÓnКiGEMINAбμiSUBJOI",
    "NERiMARK TSHEGnчDnα чDnPLUTAiхμ)MOON]SUN]ЖFսE= FսE/iжMINALμ-1w2"]),
  (72368, ["aCANADЦSYLLABICS NATTILIK HI&I%O&O%A&A$SHRI+I*O+O*A+AtSPEvIvOvAaPAU CIN HAU(PAtKAtLA",
    "tMAtDAtZAtVAtNGAtHAtGAtKHAtSAtBAtCAtTAuHAtNAtPHAtRAtFAtCHAtAtEtItOtUuAtIAtι PzKzTzMzNzLzWzN",
    "GzYmRISаTÍ LONGxmSДHI GLOTTиSTOPmRISаTÍ АιyιmSДHI GLOTTиSTOP ιtTÍ LONGxx АιyιmMID-LEVEL TÍm",
    "GLOTTиSTOP пNTmMID-LEVEL TÍ Аι#ιmLOW-FЪаTÍ LONG$mGLOTTиSTOPmLOW-FЪаTÍ Аι%ιmGLOTTиSTOP ι"]),
  (72704, ["aBHAIKSUKI(AsArIsIrUsUrÂR!RzL"]),
  (72714, ["aBHAIKSUKI(ErAIrOrAUrKAsHArGAsHArNGArCAsHArJAsHArNYArTTAtHArDDAtHArNNArTAsHArDAsHArN",
    "ArPAsHArBAsHArMArYArRArLArVArчsSAsArHAkò^ AAvIwIvUwUvÂR&R%L"]),
  (72760, ["aBHAIKSUKI ò^ EvAIvOvAUkÖцpÓpКrRAMApAVAмHAkDДAlOUBLE DДAkWORD ЯkGAP FILLER-1v2"]),
  (72784, ["aBHAIKSUKI áqÍqÃrþqñrлqГrÛqìqÞkс ÍrÃsþrñsлrГsÛrìrÞrեsWгYsօrFORTYsIFTYrГTYsÛTYrìYrÞTY",
    "kHUNDREDS UNITμ"]),
  (72816, ["aMARCHEN хμiMARK чDiυKAqHApGApNGApCAqHApJApNYApTAqHApDApNApPAqHApBApMApTSArHApDZApWA",
    "pZHAqAp-ApYApRApLApчqApHApA"]),
  (72850, ["aMARCHEN SUBJOINED(KA!HAzGAzNGAzCA!HAzJAzNYAzTA!HAzDAzNAzPA!HAzBAzMAzTSA#HAzDZAzWAzZ",
    "HA!A"]),
  (72873, ["aMARCHEN SUBJOINED(YAzRAzLAzч!AzHAzAiò^ AAtItUtEtOiÖÓnц"]),
  (72960, ["aMASARAM GONDI(AwAvIwIvUwUvE"]),
  (72968, ["aMASARAM GONDI(AIvO"]),
  (72971, ["aMASARAM GONDI(AUvKAwHAvGAwHAvNGAvCAwHAvJAwHAvNYAvTTAxHAvDDAxHAvNNAvTAwHAvDAwHAvNAvP",
    "AwHAvBAwHAvMAvYAvRAvLAvVAvчwSAwAvHAvLLAvKSSAvJNYAvTRAoò^ AAzI!IzU!UzÂR"]),
  (73018, ["aMASARAM GONDI ò^ E"]),
  (73020, ["aMASARAM GONDI ò^ AIzO"]),
  (73023, ["aMASARAM GONDI ò^ AUoÖÓtКtNUKTAtCДRAtHALANTAoռoREPHApA-KARA"]),
  (73040, ["aMASARAM GONDI áuÍuÃvþuñvлuГvÛuìuÞ"]),
  (73056, ["aGUNJALA GONDI(AwAvIwIvUwU"]),
  (73063, ["aGUNJALA GONDI(EEvAI"]),
  (73066, ["aGUNJALA GONDI(OOvAUvYAvVAvBAwHAvMAvKAwHAvTAwHAvLAvGAwHAvDAwHAvNAvCAwHAvTTAxHAvLLAvJ",
    "AwHAvDDAxHAvNGAvPAwHAvHAvRAvSAoò^ AAzI!IzU!U"]),
  (73104, ["aGUNJALA GONDI ò^ EEzAI"]),
  (73107, ["aGUNJALA GONDI ò^ OOzAUoÖÓtКoռoOM"]),
  (73120, ["aGUNJALA GONDI áuÍuÃvþuñvлuГvÛuìuÞ"]),
  (73440, ["aMAKASAR(KApGApNGApPApBApMApTApDApNApCApJApNYApYApRApLApVApSApAiйKAiò^ ItUtEtOiPASSI",
    "MBйiENDûSECб"]),
  (73648, ["aLISU(YHA"]),
  (73664, ["aTAMIL FRACб Í Tþ-HUNDRED-Д-TWгIETHtÍ-HUNDRED-Д-ГTIETHtìIETHtГTY-ñTHtFORTIETHtTօ-SEC",
    "ONDpTþ ìIETHSvГTY-ñTHSpÍ TWгIETHtГTEгH-1%2tTгHtìHpTþ TWгIETHSvГTEгHSpÍ FIFTHtQUARжtHALF-1y2",
    "pTþ QUARжSpÐSCALаFACTOR KIIZHgÖNELlCEVITUlAAZHAAKKUlUZHAKKUlMUUVUZHAKKUlKURUNIlPATHAKKUlMUK",
    "KURUNIlKAACUlPANAMmONlVARAAKANlPAARAMlKUZHIlVELIgWET CULTIVAб^gDRY CULTIVAб^gLД^gSALT PAN^g",
    "TRADIбиCREDIT^sс^gCURRг^gД ODD^gSPг^gTքL^gIN POSSESSION^gհTаFROM^hIGN MUTHALIYAlVAKAIYARAA"]),
  (73727, ["aTAMIL À ENDûTEXTaCUNEIFORM^ AqφAxBADxGAN2 եUxHAxIGIxLAGARվxMUSHxSAGq2qBrφЬ2yDUN3վyG",
    "AL!N2 եUyHAyIGIվzMINyLAGABySHESHyUîUîUsGUNUr2sφBALAGzGAN2 եUzMEîENzч3zTAK4qDqKrφERIN2ySHITA",
    "îGISHqLrφALyDIM2yGISHyHAyKAD3zIySHEyUSHrANrEPHqMARtφSHEqNrüANsTþ TIMESsPLUS NAGA OPPOSаANîN",
    "AGA$êDrSHEqPINqRADtφKURrKABqSAL2rHs ZIDA եUtKABA եUtOО Ь TUG2üTUG2 TUG2üTUG2 PAP$OО Ь: каЬü",
    "ЬüЬs2sGABpBArDrG3rHAR2rLsüBALsAGrRsA2qIrφAyGARyIGIվqUrüBU AB!UNsкаBUrLUGuüBULUGrRs2pDArGs K",
    "ISIM5φAîMЬ,MAR+BALAG,I+GA.îMЬ,I.R2,UD+HA+IR.îLU+KAK+LA,U.îMЬ2.M+NE+PAPîPAP+SI+TAK4+U2îGIR2,",
    "SHrMrRsA3t4qIrBrMsφSHEs2rNs KASKиUվ DISHrSHqUrüDUsGUNUsSHESHIGrBsφESH2s2rGsUDrHrNs3tվyվs4rR",
    "2pEqφPAPrOО E NUNüNUNq2rφAîHAîDAyGARyMIySALzHEyUqDINqGIRqLqNrφGAN2$ եUyMEsкаENsOPPOSаENsêDq",
    "RENrIN2qSH2qZENtφA#îLAL:φLAL#N!BAD!DUN3վ/վ!HA$վ!IGIվ!KASKAL+ êD#U3!LA$LφLAL#I#U!U2#DpGArվr2",
    "sφAîDAîHA+HA+IGI!B2 եUîTAB!N!SH$2îGALzBAD#RîRA!UR$îRAzDA!I#MφSHE!UBzEL#îLA!N#φGAN2 եUzGAN2 ",
    "եU#R!I#4$îA#R2îSUzHAîLUîESH2#L$îLA!IîLI!UB2zIGIվ!SHîHUîЬzKAK#SKAL!ID$îLAL!U3îANzLAzMEîEN!Iz",
    "NUN$üNUNzPAzSAL#R!HE$îTUR#ID!UMzTAK4zU!D#îDUtOО GA2rBAt каGABArDsüGAD GARüGARrLs GADüGAD GA",
    "RüGARsAMrMrNs2t եUuOО GAN2uкаGAN2rRs3rчNqESHTINwφKURqIrφEyUsкаGIr4süGI4tкаGI4rDIMrR2tվs3tφA",
    "îIGI!GAN2 եU!IGI!LUîIGI!PArSALsHt каGISHuTIMES BAD!TAK4vENUqUr каGUr2sφKAK$φIGIվzNUNzSALîTU",
    "G2tGUNUrDsφAîKURzKURtOО GUD LUGALrLrMsφSHErRs7sUNtSHpHAr եUsGUNUrLqIrφЬ#2yBADyDISHyGADyKINy",
    "NUNySHEyUqUrB2tφAN!HAL!KASKAL!LISH!UDrL2pIq AqBqDIMtüIDIM BUR&êDqGrIs DIBtRItOО IGI SHIRüSH",
    "IR UDüUDtGUNUqLrφGAN2 եUr2qMrφTAK4sкаIMsOPPOSаIMsêDrINqNqRqSHpKArφAzD!îKU3zSH2yBAD!LAG!RzIy",
    "ERIN2zSH2yGA!L!N2 եU!R#îч3îAzI!R2!SHîSAR%каGISHzU!R7yIGIzMyKAKzI!DyLIzUyME!îDU+GI+TEzI!îNUN",
    "UZyNEzUNyPIyRUySA!RzHA!E!ID!UzIGzUHURyTARyUz2zDzMUMφPAzSHyZIr2s каKA2rBrD2s3s4s5tüKAD5rKsφI",
    "GIվrLsφBADtкаKALrM2s4rSKALv LAGABφUüLAGABφUwOО KASKиLAGABφUüLAGABφUqESH2qIrφBADyUzDrDrNrSAL",
    "sHsIM5vüKISIM5qUrüHIφЬ2 KUüHIφЬ2r3r4s пNT@r7rLsվrNrRs OPPOSаKURrSHU2qWU318pLArGABuφA$îDAîHA",
    ".GAR.LAL$L$N$SH ZIDA եU#BAD$I#DAR#EN#GA%R$UD&îGUD#HA%L$IφNUN#IGIվ$M%îHA/LU#KI%N$U3%L&îHIîA#",
    "LAGAB$ISH$U%L#ME%îEN$USH#NE#SHEîSUM%ITAîGISHîERIN2=ISH եU%U2*îSHU2$UM#TAG%K4$EîAîSUîNA#U$îA",
    ".UîU$2îЬ$D$SHvêDtRuφSHE&îSUMvGUNUzüLAGARվ SHErHSHUrLsφLALrMsφKUR$îRUqIrLrMMU2rSHqUrφBADr2sφ",
    "ALzBADzESH2% եUzGAN2 եUzHIφBADzIMzKAD2$3%îЬ!IzLAîЬ#GABzMEîENzNE!UzSIîЬ#K2îBUzTUG2uENUtкаLU2",
    "tOPPOSаLU2têDuHESHIGr3rGALuüLUGALwPPOSаLUGALvSHESHIGrHrLrMsüLUM# GARüGARpMArφTAK4sGUNUr2rHr",
    "RrSHt2qErSqIrNqUrüMUrGsվrNSUBrRGU2rSHtφA!KUR!ZAuOО MUSH%φAîNAuкаMUSHt3uφA$îDI#DIvGUNUpNAr2r",
    "GAt INОTEDuTIMES SHU եUuOPPOSаNAGAtRrM NUTILLUss2qErφAyUDsSHESHIGqIrφEr2rMsφGAN2 եU#RîGAN2 ",
    "եUrNDA2vφAN%SH*îЬ$GUD$MEîGAN2 եU$NE%UN$SHE*îA AN<SH=HîЬ$U2îЬ%SHrSAGqUr11rNs LAGARφGAR*MЬ*SA",
    "L.üNUN LAGARφSAL*USHtեUtOО NUNtкаNUN* LAGARüLAGARsUZu AB2φЬGAB*BI*DUG*GUD*IGIվ*KAD3*LA*NE*S",
    "ILA3*U2vKISIM5φBI: UpPArDrNrPqESH2qIrφAzByBIzUyEyIzByUz2sкаPIrRIGuφKAL#UD#ZAvOPPOSаPIRIGpRA",
    "rBqIqUpSArG NUTILLUssφAzDU#BzHAzKAK!URzLUMzMIzNUNzSAL!HIDzTABzU2!B!M!R!SHtOО SAGtGUNUrLs LA",
    "GABφЬ2rNGA2rRqHAs3tφA!BAD!GISH!NE!SHU2!TUR!U#îAs6sB6sR2rEs HUtOО SHE GADüGAD GARüGAR$TABüTA",
    "B GARüGARsG9sNsSHu2uսrIDtφA!IMsMtφA!BAL#ULUG!DIN!GAR!IGI%վ!KUSHU2!LUL!MUG!SALsNIGsRt եUuOО ",
    "SHIR BURüBURsTArUsüðSHUs2sBURqIrվrGs4tüSIG4 SHU2rK2rLA3qUrüSUrDs2rHURrMsЬrRs9pTAr ASжISKsTI",
    "MES HIyMIsGUNUrBsüTAB NIüNI DISHüDISHtêDrGsφBIzGUDzSHE#UzTUG2zUDrK4rRqErվqIr եUrLrRsφTAK4tO",
    "О TIR# GADüGAD GARüGARqUrG2rKrMrRsüTUR ZAüZApUq GUDrU UrOО U PAüPA GARüGARySURüSURyU éOО U ",
    "REОSEDq2qBqDr KUSHU2sTIMES BADyMIyUîUîU=վsGUNUsSHESHIGzφBADrUGqMrφLAGAByMEîDAyч3yUrBINrUMtφ",
    "KASKAL!PAqNrվqRr каURsSHESHIGr2sφAîHA+NA!LzHAzNUNzU2#îЬ,BIr4rIs3rUsφA!SHGABzBARzDUNzGA#L#N2",
    " եU#R!UzHAzIGI!M!SHzKIzLUMzMINzPAzSHE!IG4zTUzUîGUD!D!RUDAsDAuφUqSHsφAzKU#RzTAK4sXs2sUMXqTUK",
    "IqZ3sφKASKALrUpZAr եUsêDφKURrGrMXqE2qIrüZIr3rBs KABA եUrGrZ2qUr5sφArBURrMpKAP EսITEpABφNUNr",
    "2φAqMARφKUGpDAG KISIM5φU2îMЬs3qISHîSHUqUBφSHEpEZENφGUD!SHEpGA2φANîKAKîA!SH2qE22qIGpHUSHpKAφ",
    "ANSHEzSH3yGISHzUDyHIφЬ2yLUMyPAySHULyTUyUR2pLAGABφGIqU2 SHESHIGφBADtTIMES ESH2îLALzSHUpMESHq",
    "USH3φZApNA4qINs9sDA2φBAL$GIqU11ëpPESH2 ASжISKqIR2pSAGφIGIվpTI2pUMφMEq U"]),
  (74752, ["aCUNEIFORM NUMERIC^ Ã Ьyþ Ьxñ Ьyл ЬxГ ЬyÛ Ьxì ЬxÞ ЬxTþ DISHxñ DISHyл DISHxГ DISHyÛ D",
    "ISHxì DISHxÞ DISHxñ Uyл UxГ UyÛ Uxì UxÞ UxÍ GESH2xÃ GESH2yþ GESH2xñ GESH2yл GESH2xГ GESH2yÛ",
    " GESH2xì GESH2xÞ GESH2xÍ GESHUxÃ GESHUyþ GESHUxñ GESHUyл GESHUxÃ чR2yþ чR2. пNT@xñ чR2yл чR",
    "2xГ чR2yÛ чR2xì чR2xÞ чR2xÍ чRUxÃ чRUyþ чRU. пNT@xñ чRUyл чRUxчR2φGALîDISH=PLUS MINxÍ BURUx",
    "Ã BURUyþ BURU, пNT@xñ BURUyл BURUxTþ пNT@ ESH16=RM ESH21xñ пNT@ LIMMU=M LIMMU4=M LIMMU A=M ",
    "LIMMU BxГ пNT@ Ь9yÛ пNT@ IMIN3=RM IMIN A=RM IMIN Bxì пNT@ USSU=RM USSU3xÞ пNT@ ILIMMU=M ILI",
    "MMU3=M ILIMMU4=M ILIMMU AxÃ Ь եUyþ Ь եUxñ Ь եUyл Ь եUxГ Ь եUxÍ BAN2xÃ BAN2yþ BAN2xñ BAN2+ п",
    "NT@yл BAN2+ пNT@xNIGIDAMIN%ESHxÍ ESHE3xÃ ESHE3xÍ THIRD DISHxÃ THIRDS DISHxFл ГTHS DISHxÍ TH",
    "IRD пNT@ AxÃ THIRDS пNT@ AxÍ ìH Ь#QUARж ЬyLD ASSYRЦÍ ГTH= QUARжyNE QUARж GUR#ÌGURxEսITE Í T",
    "HIRD*Ã THIRDS*FORTY+IFTYxñ U пNT@yл U пNT@xГ U пNT@yÛ U пNT@xì U пNT@xÞ U пNT@"]),
  (74864, ["aCUNEIFORM À^ ոASSYRЦWORD DIVIDER#δ COLON#РиCOLON:TRICOLON:QUADCOLON"]),
  (74880, ["aCUNEIFORM^ ABφNUN եUySHU2qDφESH2pBADφDISH եUrHAR2φAB2$NI$ZAqUüBUφNA2pDAφTAK4rGφKURq",
    "IMφIGIzU U Us2φUDqUGφANSHE!SH$ AT ÝzDIN!UNzERIN2zGA!I#R2վ#SHzHA!IzIGIվzKASKAL!UR#SHU2*îKASK",
    "ALzLAK-020#M$φKUR!UHîGISHzMЬ!ES!IzNIzPIzSHE!IվpE2φKURyPAPqRIN2 XqSH2 каESH2qZEN SHESHIGφЬ.H",
    "I.IGIվ.LA:L.ME:S.SUuTIMES SUpGA2φBAHAR2zDIMվ!UGφIGIվ/KASKALzERENzGA#RîDI.NEzHAîAzKUSHU2îKAS",
    "KALzս$φKUR!UHzMUSHzNE#îE2,GIzSHIMzZIZ2rBAëqESHTINφUqISHφGISH каGISHqU2φIGIվrDîGISHφTAK4pHA ",
    "եUվqIφЬüHIφЬpKAφBUyKAyU U UzRpLAGABφZUüZUrK-003u21v5u30u50v1u62u79üLAK-079վu80v1üLAK-081u92",
    "t130u42t210v9u20v5v8u38u65v6t343v7v8u83v4u90t441v9wφGU%IGI%PAPîLU3<PAPîLU3%U2îBAu50v7u70u83",
    "u90v2v3v5t550t608u17wφЬ%BAD%DUN3վվ%KU3%LA%TAR&E%U2&D&RUDAu36u48wφDUB%GA%IGI+վ%NI%PAPîPAPîLU",
    "3%SHESHîKI%UD&RUDAt724u49qU2վφЬtTIMES DISHzHALzPAP$îPAPîLU3zTAK4pMIîZA7qUSHüMUSHφGA:KAKpNIN",
    "DA2φDIMվ$GISH%UL$HI$KESH2$LAK-050$MЬ$PAPîPAP$U%îU%RUDApSAGվφHAtTIMES ENzSHE AT ÝzTAK4qHA6 ե",
    "UrEüSHEtPLUS HUB2yNAM2ySARrU2îDUGφNIzE2φANqIφTAK4pTAK4îSAGqUMφGAN2 եUzTþ DISHpUR2 INОTEDtTI",
    "MES UDrUφDARA3zLAK-668!U3pZA7qUüZUîSARr5φTþ DISH եU"]),
  (77712, ["aCYPRO-MINOAN^ CM001w2w4w5w6w7w8w9v10w1w2xBw3w5w7w9v21w3w4w5w6w7w8w9v30w3w4w5w6w7w8w",
    "9v40w1w4w6w7w9v50w1w2w3w4w5w6w8w9v60w1w2w3w4w6w7w8w9v70w1w2w3w4w5xBw6w8w9v80w1w2w3w4w5w6w7w",
    "8w9v90w1w2w4w5w6w7w8w9u100w1w2w3w4w5w7w8w9v10w2w4u301w2"]),
  (77824, ["aEGYPTЦHIEROGLYPH A001x2x3x4x5yAx6yAyBx7x8x9w10x1x2x3x4yAx5x6x7yAx8x9w20x1x2x3x4x5x6",
    "x7x8x9w30x1x2yAx3x4x5x6x7x8x9w40yAx1x2yAx3yAx4x5yAx6x7x8x9w50x1x2x3x4x5x6x7x8x9w60x1x2x3x4x",
    "5x6x7x8x9w70uB001x2x3x4x5yAx6x7x8x9uC001x2yAyByCx3x4x5x6x7x8x9w10yAx1x2x3x4x5x6x7x8x9w20x1x",
    "2x3x4uD001x2x3x4x5x6x7x8yAx9w10x1x2x3x4x5x6x7x8x9w20x1x2x3x4x5x6x7yAx8x9w30x1yAx2x3x4yAx5x6",
    "x7x8x9w40x1x2x3x4x5x6yAx7x8yAx9w50yAyByCyDyEyFyGyHyIx1x2yAx3x4yAx5x6x7x8x9w60x1x2x3x4x5x6x7",
    "yAyByCyDyEyFyGyHuE001x2x3x4x5x6x7x8yAx9yAw10x1x2x3x4x5x6yAx7yAx8x9w20yAx1x2x3x4x5x6x7x8yAx9",
    "w30x1x2x3x4yAx6x7x8uF001yAx2x3x4x5x6x7x8x9w10x1x2x3yAx4x5x6x7x8x9w20x1yAx2x3x4x5x6x7x8x9w30",
    "x1yAx2x3x4x5x6x7yAx8yAx9w40x1x2x3x4x5yAx6yAx7yAx8x9w50x1yAyByCx2x3uG001x2x3x4x5x6yAx7yAyBx8",
    "x9w10x1yAx2x3x4x5x6x7x8x9w20yAx1x2x3x4x5x6yAx7x8x9w30x1x2x3x4x5x6yAx7yAx8x9w40x1x2x3yAx4x5y",
    "Ax6x7x8x9w50x1x2x3x4uH001x2x3x4x5x6yAx7x8uI001x2x3x4x5yAx6x7x8x9yAw10yAx1yAx2x3x4x5uK001x2x",
    "3x4x5x6x7x8uL001x2yAx3x4x5x6yAx7x8uM001yAyBx2x3yAx4x5x6x7x8x9w10yAx1x2yAyByCyDyEyFyGyHx3x4x",
    "5yAx6yAx7yAx8x9w20x1x2yAx3x4yAx5x6x7x8yAx9w30x1yAx2x3yAyBx4x5x6x7x8x9w40yAx1x2x3x4uN001x2x3",
    "x4x5x6x7x8x9w10x1x2x3x4x5x6x7x8yAyBx9w20x1x2x3x4x5yAx6x7x8x9w30x1x2x3yAx4yAx5yAx6x7yAx8x9w4",
    "0x1x2vL001y2y3y4y5zAy6y7y8y9x10y1y2y3y4y5y6y7zAy8y9x20vU001y2y3y4y5y6y7y8y9x10zAy1zAy2y3y4y",
    "5y6y7y8zAy9x20y1y2zAuO001yAx2x3x4x5yAx6yAyByCyDyEyFx7x8x9w10yAyByCx1x2x3x4x5x6x7x8x9yAw20yA",
    "x1x2x3x4yAx5yAx6x7x8x9yAw30yAx1x2x3yAx4x5x6yAyByCyDx7x8x9w40x1x2x3x4x5x6x7x8x9w50yAyBx1uP00",
    "1yAx2x3yAx4x5x6x7x8x9w10x1uQ001x2x3x4x5x6x7uR001x2yAx3yAyBx4x5x6x7x8x9w10yAx1x2x3x4x5x6yAx7",
    "x8x9w20x1x2x3x4x5x6x7x8x9uS001x2yAx3x4x5x6yAx7x8x9w10x1x2x3x4yAyBx5x6x7yAx8x9w20x1x2x3x4x5x",
    "6yAyBx7x8x9w30x1x2x3x4x5yAx6x7x8x9w40x1x2x3x4x5x6uT001x2x3yAx4x5x6x7yAx8yAx9yAw10x1yAx2x3x4",
    "x5x6yAx7x8x9w20x1x2x3x4x5x6x7x8x9w30x1x2yAx3yAx4x5x6uU001x2x3x4x5x6yAyBx7x8x9w10x1x2x3x4x5x",
    "6x7x8x9w20x1x2x3yAx4x5x6x7x8x9yAw30x1x2yAx3x4x5x6x7x8x9w40x1x2uV001yAyByCyDyEyFyGyHyIx2yAx3",
    "x4x5x6x7yAyBx8x9w10x1yAyByCx2yAyBx3x4x5x6x7x8x9w20yAyByCyDyEyFyGyHyIyJyKyLx1x2x3yAx4x5x6x7x",
    "8yAx9yAw30yAx1yAx2x3yAx4x5x6x7yAx8x9w40yAuW001x2x3yAx4x5x6x7x8x9yAw10yAx1x2x3x4yAx5x6x7yAx8",
    "yAx9w20x1x2x3x4yAx5uX001x2x3x4yAyBx5x6yAx7x8yAuY001yAx2x3x4x5x6x7x8uZ001x2yAyByCyDx3yAyBx4y",
    "Ax5yAx6x7x8x9w10x1x2x3x4x5yAyByCyDyEyFyGyHyIx6yAyByCyDyEyFyGyHuAA001y2y3y4y5y6y7zAzBy8y9x10",
    "y1y2y3y4y5y6y7y8y9x20y1y2y3y4y5y6y7y8y9x30y1y2"]),
  (78896, ["aEGYPTЦHIEROGLYPH δ JOINERuλ JOINERuINSERT AT TOP հT&ղհT&TOP END&ղENDuOОLAY MIDDLEuB",
    "EGIN SEGMгuEND SEGMг"]),
  (82944, ["aANATOLЦHIEROGLYPH A001y2y3y4y5y6y7y8y9x10zAy1y2y3y4y5y6y7y8y9x20y1y2y3y4y5y6zAy7y8y",
    "9x30y1y2y3y4y5y6y7y8y9zAx40y1zAy2y3y4y5zAy6zAzBy7y8y9x50y1y2y3y4y5y6y7y8y9x60y1y2y3y4y5y6zA",
    "zBzCy7y8y9x70y1y2y3y4y5y6y7y8y9x80y1y2y3y4y5y6y7y8y9x90y1y2y3y4y5y6y7zAy8zAy9w100zAy1zAy2zA",
    "y3y4zAzBzCy5zAzBy6y7zAzBzCy8y9x10zAzBy1y2y3y4y5zAy6y7y8y9x20y1y2y3y4y5zAy6y7y8y9x30y1y2y3y4",
    "y5zAy6y7y8y9x40y1y2y3y4y5y6y7y8y9x50y1y2y3y4y5y6y7y8y9x60y1y2y3y4y5y6y7y8y9x70y1y2y3y4y5y6y",
    "7y8y9x80y1y2y3y4y5y6y7y8y9x90y1y2y3y4y5y6y7y8y9w200y1y2zAzBy3y4y5y6y7zAy8y9zAx10y1y2y3y4y5z",
    "Ay6zAy7y8y9x20y1y2y3y4y5y6y7zAy8y9x30y1y2y3y4y5y6y7y8y9x40y1y2y3y4y5y6y7y8y9x50y1y2y3y4y5y6",
    "y7y8y9x60y1y2y3y4y5y6y7zAy8y9x70y1y2y3y4y5y6y7y8y9x80y1y2y3y4y5y6y7y8y9zAx90y1y2y3y4zAy5y6y",
    "7y8y9zAw300y1y2y3y4y5y6y7y8y9zAx10y1y2y3y4y5y6y7y8y9x20y1y2y3y4y5y6y7y8y9zAx30y1y2AzBzCy3y4",
    "y5y6zAzBzCy7y8y9x40y1y2y3y4y5y6y7y8y9x50y1y2y3y4y5y6y7y8y9zAx60y1y2y3y4zAy5y6y7y8zAy9x70y1z",
    "Ay2y3y4y5y6y7y8y9x80y1zAy2y3 RA OR RIzAy4y5y6zAy7y8y9x90y1y2y3 ìy4y5y6y7y8y9w400y1y2y3y4y5y",
    "6y7y8y9x10 BEGIN LOGOмMμzA END LOGOмMμy1y2y3y4y5y6y7y8y9x20y1y2y3y4y5y6y7y8y9x30y1y2y3y4y5y",
    "6y7y8y9x40y1y2y3y4y5y6y7y8y9x50zAy1y2y3y4y5y6y7zAy8y9x60y1y2y3y4y5y6y7y8y9x70y1y2y3y4y5y6y7",
    "y8y9x80y1y2y3y4y5y6y7y8y9x90y1y2y3y4y5y6y7w501y2y3y4y5y6y7y8y9x10y1y2y3y4y5y6y7y8y9x20y1y2y",
    "3y4y5y6y7y8y9x30"]),
  (92160, ["aBAMUM(PHASE-A NGKUE MFONvGBIEE FONvPШMFШPIPAEMGBIEE:BAvNAA MFONvSHUENSHUETvTITA MFO",
    "NvNZA MFONvSHINDA PA NJIvPШPA NJI PIPAEMGBIEE<BAvMAEMBGBIEEvTU MAEMBAvNGйUvMAEMVEUXxNSUAEwV",
    "EUAENGAMvSEUNYAMvNTOQPENvKEUKEUTNDAvNKINDIvSUUvNGKUENZEUMvLAPAQwET KUTvNTAP MFAAvMAEKEUPvPA",
    "чEvGHEUAERAEvPAMчEvMШNGGEUAETvNZUN MEUTvU YUQ NAEvGHEUAEGHEUAEvNTAP NTAAvSISAvMGBASAwEUNJOM",
    "NDEUQwOOMPUQvKAFAvPA LEERAEWAvNDA LEERAEWAvPETvMAEMKPENvNIKAvPUPvTUAEPvLUAEPvSONJAMvTEUTEUW",
    "ENvMAENYIvKETvNDAйGEUAETvKUOQvMOOMEUTvSHUMvLOMMAEvFIRIvROMvKPOQvSOQvMAP PIEETvSHIRAEvNTAPvS",
    "HOQ NSHUT YUMvNYIT MONGKEUAEQvPAARAEvNKAARAEvUNKNOWNvNGGENvMAESIvNJAMvMBANYIvNYETvTEUAENvSO",
    "TvPAAMvNSHIEEvMAEMvNYIvKAQvNчvVEEvLUvNENwAQvMBAQtB NSHUETvTU MAEMGBIEEvSIEEwET TUvLOM NTEUM",
    "vMBA MAELEEvKIEEMvYEURAEvMBAARAEvKAMvPEESHIvYAFU LEERAEWAvս NSHUT NYAMvNTIEE SHEUOQwDU NJAA",
    "vGHEUGHEUAEMvPITvTU NSIEEvSHET NJAQyUAEQTUvMFШTEUAEQwBIT MBAAKETvNYI NTEUMvKEUPUQvGHEUGHENv",
    "KEUYEUXvLAANAEvPARUMvVEUMvNGKINDI MVOPxGEU MBUvWUAETvSAKEUAEvTAAMvMEUQvNGGUOQ# щvMFIYAQvSUE",
    "vMBEURIwONTIգvNYAEMAEvPUNGAAMvMEUT NGGEETvFEUXvMBUOQvFEEvKEUAEMvMA NJEUAENA!UQAvLETvNGGAAMw",
    "SENvMAvKIQvNGOMtC NGKUE MAEMBAwZAvYUMvWйKUOQvNGGENwDEUAEREEwGKAQvGHARAEvMBEEKEETvGBAYIvNYIR",
    " MKPARAQ MEUNwTU MBITvMBEUMvPIRIգvNDOMBUvMBAA CABBAGE-TREEvKEUSHEUAEPvGHAPvKEUKAQvYU MUOMAE",
    "vNZEUMvMBUEvNSEUAENvMBITvYEUQvKPARAQwAAvSEUXvNDIDAvTAAчEvNJUEQvTITA YUEvSUAETvNGGUAEN NYAMv",
    "VEUXvNANSANAQvMA KEUAERIvNTAAwGGUONvLAPvMBIRIգwGBASAQvNTEUNGBAvTEUTEUXvNGGUMvFUEvNDEUTwSAxH",
    "AQvBUNGvVEUAEPENvMBERAEvRUvNJAEMvսvTITUAEPvNSUOT NGOMwJEEEEvKETvNGGUvMAESIwBUAEMvLUvKUTvNJA",
    "MwGOMvWUPvNGGUEETwSOMwեvKUOP NKAARAEvNSUNwDAMvMA NSIEEvYAAvNDAPvSHUEQwETFONvMBIwAEMBAwBANYI",
    "vKEUSEUXvMBEUXvKEUMvMBAA PICKETvYUWOQvNJEUXvMIEEwUAEvSHIQvKEN LAWzFATIGUEvNGAQwAQvLIQvPINwE",
    "NvTETtD MBUOvWAPvNJIvMFONvNJIEEvLIEEvNJEUTwSHEEwGGAAMAEwYAMvWUAENvNGKUNvSHEEvNGKAPvKEUAETME",
    "UNvTEUTvSHEUAEvNJAPvSUEvKETvYAEMMAEvKUOMvSAPvMFEUTvNDEUXvMրERIwEUTvSEUAEQvYENvNJEUAEMvKEUOT",
    " MBUAEvNGKEURIvTUvGHAAvNGKYEEvFEUFEUAETvNDEEvMGBOFUMvLEUAEPvNDONvMONIwGBEUNvPUUTvMGBIEEwFOv",
    "LUMvNSIEEPvMBAAvKWAETvNYETvTEUAENvSOTvYUWOQvKEUMvRAEMvTEEEEvNGKEUAEQvMFEUAEvNSIEETvKEUPvPIP",
    "wEUTAEvNYUEvLETvNGGAAMvMFIEEvNGGWAENvYUOMvPAPvYUOPvNDAMwTEUMvSUAEvKUNvNGGEUXxKIEEvTUOTvMEUN",
    "vKUQvNSUMvTEUNvMAENJETvNGGAPvLEUMvNGGUOMwSHUTwJUEQvGHEUAEvKUvREN OLDvTAEwOQvNYIvRIIvLEEEEvM",
    "EEEEwvSUUvMUvSHIIxEUXvKYEEvNUvSHUvNTEEvPEEvNIvSHOQvPUQvMVOPvLOQvREN MUCHvTIvNTUUvMBAA SÛvSA",
    "QvFAAtE NDAPvTOONvMBEUMvLAPvVOMvLOONvPAAvSOMvRAQvNSHUOPwDUNvPUAEvTAMvNGKAvKPEUXvWUOvSEEvNGG",
    "EUAETvPAAMvTOOvKUOPvLOMvNSHIEEwGOPvMAEMvNGKEUXxOQwSHUEvRIMGBAvNJEUXvPEEMvSAAvNGGURAEvMGBAvG",
    "HEUXvNGKEUAEMwJAEMLIvMAPvLOOTvNGGEEEEwDIQvTAEN NTEUMvSETvPUMvNDAA SOFTNESSwGGUAEчE NYAMvYIE",
    "EvGHEUNvTUAEvYEUAEvPOvTUMAEvKEUAEvSUAENvTEUAEQvVEUAEvWEUXvLAAMvPUvTAAQvGHAAMAEvNGEUREUTvSHE",
    "UAEQvMGBENwBEEvNZAQwKOMvGBETvTUMvKUETvYAPvNYI CLEAОvYITvMFEUQvNDIAQvPIEEQvYUEQvLEUAEMvFUEvG",
    "BEUXvNGKUPvKETvMAEvNGKAAMIvGHETvFAvNTUMvPEUTvYEUMvNGGEUAEwYI BETWգwZUQvPOONvMIEEvFUETvNAEvM",
    "UAEvGHEUAEvFU IvMVIvPUAQvNGKUMvKUTvPIETvNTAPvYEUAETvNGGUPvPA PEOPLEvFU CЪwOMvNJEEvAvTOQvOvI",
    "vLAQvPA PLURALvTAAxQvNDAA MY HOUSEvSHIQvYEUXvNGUAEvYUAENwOQ SWIMMеzCOОwUQxNvKEUXvPEUXvNJEE ",
    "EPOCHvPUEvWUEvFEEvVEEvLUvMIvREUXwAEvNGUAETxAvSHOyQvFU REMEDYvNAvPIvLOQvKOvMENwAxQvTEUvKIvMO",
    "NvեvFAQvGHOMtF KAvUvKUvEEvREEvTAEvNYIvLAvRIIxEEvMEEEEvTAAvNDAAwJAEMvMvSUUwHIIwIwEUXvKYEEwET",
    "vNUAExwJUAEvYOQvSHUvYAvNчvPEUXvNTEEvWUEvPEEvRUvNIvREUXvKENvNGKWAENxGAvSHOvPUAEvFOMvWAvLIwOQ",
    "vKOvMBENvRENvMAwOwBAAvTETvKPAvSAMBAvVUEQ"]),
  (92736, ["aMRO(TAlNGIlYOlMIMlBAlDAlAlPHIlKHAIlHAOlDAIlCHUlKEAAElOLlMAEMlNINlPAlOOmlROlSHIlձAlE",
    "AlWAlElKOlLANnlHAIlRIlTEK"]),
  (92768, ["aMRO ákÍkÃlþkñlлkГlÛkìkÞ"]),
  (92782, ["aMRO DДAfOUBLE DДAaTйSA(OZpCpQpXoAZpCpQpXoVZpCpQpXoEZpCpQpXoIZpCpQpXoUZpCpQpXoAWZqCq",
    "QqXoUIZqCqQqXoι NGoАUEXoИ UEZuAWXoUECqZqQqXpIUZrCrQrXoMZpCpQpXoKApHAoGAoNGAoSAoYAoWAoPAoNYA",
    "oPHAoBAoMAoNAoHAoLAoHTAoTAoDAoRAoNHAoчoCAoTSAoGHAoHTTAoTHAoXAoFAoDHAoCHAoZA"]),
  (92864, ["aTйSA ánÍnÃoþnñoлnГoÛnìnÞ"]),
  (92880, ["aBASSA VAH(ENNIrKArSErFArMBErYIErGAHrDHIIrKPAHrJOrHWAHrWArZOrGBUrDOrCErUWUrTOrBArVUr",
    "YEINrPArWADDArArOsOrUrEEsrI"]),
  (92912, ["aBASSA VAH ÈыTÍuВTÍuMID TÍuLOW-MID TÍuHIGH-ВTÍkÎ"]),
  (92928, ["aPAHAWH HMONG ò KEEBwVuIBvVuAUBwVuUBvVuEBvVuAIBwVuOOBwVuAWBwVuUABwVuOBvVuIABwVuABvVu",
    "WBvVuAABwVnդ VAUxNTSAUxLAUxHAUxNLAUxRAUxNKAUxQHAUxYAUxHLAUxMAUxCHAUxNCHAUxHNAUxPLHAUxNTHAUy",
    "AUxAUxXAUxCAUnMARK CIM TUBwSOwKESxHAVwSUAMwHOMwTAUMnÖVOS THOMxчB CEEBsCIM CHEEMsVOS THIABwF",
    "EEMsXYEEM NTXIVyRHOyTOVyFAIBsVOS SEEVsMEEJ SUABsVOS NRUAsIB YAMsXAUSsCIM TSOV ROG"]),
  (93008, ["aPAHAWH HMONG átÍtÃuþtñuлtГuÛtìtÞ"]),
  (93019, ["aPAHAWH HMONG с եSuHUNDREDSuեςSuMILLIONSuHUNDRвMILLIONSuե BILLIONSvRILLIONS"]),
  (93027, ["aPAHAWH HMONG^ VOS LUBsXYOOsHLIsTHIRD-STAGE HLIsZWJ THAJsHNUBsNQIGsXIABsNTUJsAVsTXHE",
    "EJ CEEVsMEEJ TSEEBsTAUsLOSsMUSsCIM HAIS LUS NTOG NTOGwCUAM TSHOOJwTXWV! CHWVwPUB DAWBwNRES ",
    "TOS"]),
  (93053, ["aPAHAWH HMONG CLAN^ TSHEEJxYEEGxLISyAUJxXYOOJxKOOxHAWJxMUASxTHOJySABxPHABxKHABxHAMxV",
    "AJxFAJxYAJxTSWBxKWMxVWJ"]),
  (93760, ["aMEDEFAIDRIN >(M#S#V#W#ATIU#Z#KP#P#T#G#F#I#K#A#J#E#B#C#U#YU#L#Q#HP#NY#X#D#OE#N#R#O#A",
    "I#Ym?(MzSzVzWzATIUzZzKPzPzTzGzFzIzKzAzJzEzBzCzUzYUzLzQzHPzNYzXzDzOEzNzRzOzAIzYmásÍsÃtþsñtлs",
    "ГtÛsìsÞmс եtELÛtTWELVEuHIRTգtñTգuIFTգtГTգuÛTգtìգtÞTգmփÍ ALжNATE@sÃ ALжNATE@tþ ALжNATE@mПmÎm",
    "SYMBOL AIVAmEXCսAб OH"]),
  (93952, ["aMIAO(PAmBAmYI PAmPLAmMAnHAmլC MAmFAmVAnFAmTAmDAmYI TTAqAmTTAmDDAmNAnHAmYI NNAmլC NA",
    "mNNAoHAmLAnYAnHAoYAmTLHAmDLHAmTLHYAmDLHYAmKAmGAmYI KAmQAnGAmNGAoHAmլC NGAmHAmXAmGHAoHAmTSSA",
    "mDZZAmNYAoHAmTчmDZHAmYI TчpDZHAmREFORMвTчmчnSAmZHAnчmTSAmDZAmYI TSAmSAmZAnSAnZAoSAmլC ZZAmZ",
    "ZYAoSYAmWAmAHmHHAmBRImSYImDZYImTEnSEmRTE"]),
  (94031, ["aMIAO^ դ ЗдfυNASALIZAбfÖASPIRAбkREFORMвVOICеtASPIRAбfò^ ArArHHrNsGqOrOqWOrqErNsGqOEY",
    "qIrAsNtGrOrErIrUrNGqUrAsNtGrUrEIrNGqYrIqAEsEqERRqROUNDвERRqERqROUNDвERqAIqEIqAUqOUqNrGqUOGq",
    "YUIqOGrERqVWqIGqEAqIONGqUI"]),
  (94095, ["aMIAO TÍ |kTOP |kABOVEkBELOWfυTÍ-2r3r4r5r6r7r8mREFORMвTÍ-1!2!4!5!6!8"]),
  (94176, ["aTйUT IжAбμaNUSHU IжAбμaոCHINESE ÁμmIжAбμaKHITAN ? тFILLER"]),
  (94192, ["aVIETNAMESE ALжNATE READеμ CA.NHAY"]),
  (100352, ["aTйUT COMPÍNT-001t2t3t4t5t6t7t8t9s10t1t2t3t4t5t6t7t8t9s20t1t2t3t4t5t6t7t8t9s30t1t2t",
    "3t4t5t6t7t8t9s40t1t2t3t4t5t6t7t8t9s50t1t2t3t4t5t6t7t8t9s60t1t2t3t4t5t6t7t8t9s70t1t2t3t4t5t6",
    "t7t8t9s80t1t2t3t4t5t6t7t8t9s90t1t2t3t4t5t6t7t8t9r100t1t2t3t4t5t6t7t8t9s10t1t2t3t4t5t6t7t8t9",
    "s20t1t2t3t4t5t6t7t8t9s30t1t2t3t4t5t6t7t8t9s40t1t2t3t4t5t6t7t8t9s50t1t2t3t4t5t6t7t8t9s60t1t2",
    "t3t4t5t6t7t8t9s70t1t2t3t4t5t6t7t8t9s80t1t2t3t4t5t6t7t8t9s90t1t2t3t4t5t6t7t8t9r200t1t2t3t4t5",
    "t6t7t8t9s10t1t2t3t4t5t6t7t8t9s20t1t2t3t4t5t6t7t8t9s30t1t2t3t4t5t6t7t8t9s40t1t2t3t4t5t6t7t8t",
    "9s50t1t2t3t4t5t6t7t8t9s60t1t2t3t4t5t6t7t8t9s70t1t2t3t4t5t6t7t8t9s80t1t2t3t4t5t6t7t8t9s90t1t",
    "2t3t4t5t6t7t8t9r300t1t2t3t4t5t6t7t8t9s10t1t2t3t4t5t6t7t8t9s20t1t2t3t4t5t6t7t8t9s30t1t2t3t4t",
    "5t6t7t8t9s40t1t2t3t4t5t6t7t8t9s50t1t2t3t4t5t6t7t8t9s60t1t2t3t4t5t6t7t8t9s70t1t2t3t4t5t6t7t8",
    "t9s80t1t2t3t4t5t6t7t8t9s90t1t2t3t4t5t6t7t8t9r400t1t2t3t4t5t6t7t8t9s10t1t2t3t4t5t6t7t8t9s20t",
    "1t2t3t4t5t6t7t8t9s30t1t2t3t4t5t6t7t8t9s40t1t2t3t4t5t6t7t8t9s50t1t2t3t4t5t6t7t8t9s60t1t2t3t4",
    "t5t6t7t8t9s70t1t2t3t4t5t6t7t8t9s80t1t2t3t4t5t6t7t8t9s90t1t2t3t4t5t6t7t8t9r500t1t2t3t4t5t6t7",
    "t8t9s10t1t2t3t4t5t6t7t8t9s20t1t2t3t4t5t6t7t8t9s30t1t2t3t4t5t6t7t8t9s40t1t2t3t4t5t6t7t8t9s50",
    "t1t2t3t4t5t6t7t8t9s60t1t2t3t4t5t6t7t8t9s70t1t2t3t4t5t6t7t8t9s80t1t2t3t4t5t6t7t8t9s90t1t2t3t",
    "4t5t6t7t8t9r600t1t2t3t4t5t6t7t8t9s10t1t2t3t4t5t6t7t8t9s20t1t2t3t4t5t6t7t8t9s30t1t2t3t4t5t6t",
    "7t8t9s40t1t2t3t4t5t6t7t8t9s50t1t2t3t4t5t6t7t8t9s60t1t2t3t4t5t6t7t8t9s70t1t2t3t4t5t6t7t8t9s8",
    "0t1t2t3t4t5t6t7t8t9s90t1t2t3t4t5t6t7t8t9r700t1t2t3t4t5t6t7t8t9s10t1t2t3t4t5t6t7t8t9s20t1t2t",
    "3t4t5t6t7t8t9s30t1t2t3t4t5t6t7t8t9s40t1t2t3t4t5t6t7t8t9s50t1t2t3t4t5t6t7t8t9s60t1t2t3t4t5t6",
    "t7t8aKHITAN ? тCHARACж-18B00.1.2.3.4.5.6.7.8.9.A.B.C.D.E.F,10.1.2.3.4.5.6.7.8.9.A.B.C.D.E.F",
    ",20.1.2.3.4.5.6.7.8.9.A.B.C.D.E.F,30.1.2.3.4.5.6.7.8.9.A.B.C.D.E.F,40.1.2.3.4.5.6.7.8.9.A.B",
    ".C.D.E.F,50.1.2.3.4.5.6.7.8.9.A.B.C.D.E.F,60.1.2.3.4.5.6.7.8.9.A.B.C.D.E.F,70.1.2.3.4.5.6.7",
    ".8.9.A.B.C.D.E.F,80.1.2.3.4.5.6.7.8.9.A.B.C.D.E.F,90.1.2.3.4.5.6.7.8.9.A.B.C.D.E.F,A0.1.2.3",
    ".4.5.6.7.8.9.A.B.C.D.E.F,B0.1.2.3.4.5.6.7.8.9.A.B.C.D.E.F,C0.1.2.3.4.5.6.7.8.9.A.B.C.D.E.F,",
    "D0.1.2.3.4.5.6.7.8.9.A.B.C.D.E.F,E0.1.2.3.4.5.6.7.8.9.A.B.C.D.E.F,F0.1.2.3.4.5.6.7.8.9.A.B.",
    "C.D.E.F+C00.1.2.3.4.5.6.7.8.9.A.B.C.D.E.F,10.1.2.3.4.5.6.7.8.9.A.B.C.D.E.F,20.1.2.3.4.5.6.7",
    ".8.9.A.B.C.D.E.F,30.1.2.3.4.5.6.7.8.9.A.B.C.D.E.F,40.1.2.3.4.5.6.7.8.9.A.B.C.D.E.F,50.1.2.3",
    ".4.5.6.7.8.9.A.B.C.D.E.F,60.1.2.3.4.5.6.7.8.9.A.B.C.D.E.F,70.1.2.3.4.5.6.7.8.9.A.B.C.D.E.F,",
    "80.1.2.3.4.5.6.7.8.9.A.B.C.D.E.F,90.1.2.3.4.5.6.7.8.9.A.B.C.D.E.F,A0.1.2.3.4.5.6.7.8.9.A.B.",
    "C.D.E.F,B0.1.2.3.4.5.6.7.8.9.A.B.C.D.E.F,C0.1.2.3.4.5.6.7.8.9.A.B.C.D.E.F,D0.1.2.3.4.5"]),
  (110576, ["aKATAKANA(MINNAN TÍ-2$3$4$5"]),
  (110581, ["aKATAKANA(MINNAN TÍ-7$8xNASALIZвTÍ-1<2<3<4<5"]),
  (110589, ["aKATAKANA(MINNAN NASALIZвTÍ-7<8"]),
  (110592, ["aKATAKANA(լC EaHIRAGANA(լC YEbгAIGANA(A-1u2u3uWOsI-1u2u3u4sU-1u2u3u4u5sE-2u3u4u5u6s",
    "O-1u2u3sKA-1v2v3v4v5v6v7v8v9v10w1vKEtI-1v2v3v4v5v6v7v8tU-1v2v3v4v5v6v7tE-1v2v3v4v5v6tO-1v2v",
    "3vKIsSA-1v2v3v4v5v6v7v8tI-1v2v3v4v5v6tU-1v2v3v4v5v6v7v8tE-1v2v3v4v5tO-1v2v3v4v5v6v7sTA-1v2v",
    "3v4tI-1v2v3v4v5v6v7tU-1v2v3v4vTOtE-1v2v3v4v5v6v7v8v9tO-1v2v3v4v5v6vRAsNA-1v2v3v4v5v6v7v8v9t",
    "I-1v2v3v4v5v6v7vTEtU-1v2v3tE-1v2v3v4v5v6vKOtO-1v2v3v4v5sHA-1v2v3v4v5v6v7v8v9v10w1tI-1v2v3v4",
    "v5v6v7tU-1v2v3tE-1v2v3v4v5v6v7tO-1v2v3v4v5v6v7v8sMA-1v2v3v4v5v6v7tI-1v2v3v4v5v6v7tU-1v2v3v4",
    "tE-1v2vMAtO-1v2v3v4v5v6sYA-1v2v3v4v5vYOtU-1v2v3v4tO-1v2v3v4v5v6sRA-1v2v3v4tI-1v2v3v4v5v6v7t",
    "U-1v2v3v4v5v6tE-1v2v3v4tO-1v2v3v4v5v6sWA-1v2v3v4v5tI-1v2v3v4v5tE-1v2v3v4tO-1v2v3v4v5v6v7sN-",
    "MU-MO-1!2bIRAGANA(լC WUaKATAKANA(լC YIzEyWU"]),
  (110928, ["aHIRAGANA(? WIxExO"]),
  (110948, ["aKATAKANA(? WIxExOwN"]),
  (110960, ["aNUSHU CHARACж-1B170u1u2u3u4u5u6u7u8u9uAuBuCuDuEuFt80u1u2u3u4u5u6u7u8u9uAuBuCuDuEuF",
    "t90u1u2u3u4u5u6u7u8u9uAuBuCuDuEuFtA0u1u2u3u4u5u6u7u8u9uAuBuCuDuEuFtB0u1u2u3u4u5u6u7u8u9uAuB",
    "uCuDuEuFtC0u1u2u3u4u5u6u7u8u9uAuBuCuDuEuFtD0u1u2u3u4u5u6u7u8u9uAuBuCuDuEuFtE0u1u2u3u4u5u6u7",
    "u8u9uAuBuCuDuEuFtF0u1u2u3u4u5u6u7u8u9uAuBuCuDuEuFs200u1u2u3u4u5u6u7u8u9uAuBuCuDuEuFt10u1u2u",
    "3u4u5u6u7u8u9uAuBuCuDuEuFt20u1u2u3u4u5u6u7u8u9uAuBuCuDuEuFt30u1u2u3u4u5u6u7u8u9uAuBuCuDuEuF",
    "t40u1u2u3u4u5u6u7u8u9uAuBuCuDuEuFt50u1u2u3u4u5u6u7u8u9uAuBuCuDuEuFt60u1u2u3u4u5u6u7u8u9uAuB",
    "uCuDuEuFt70u1u2u3u4u5u6u7u8u9uAuBuCuDuEuFt80u1u2u3u4u5u6u7u8u9uAuBuCuDuEuFt90u1u2u3u4u5u6u7",
    "u8u9uAuBuCuDuEuFtA0u1u2u3u4u5u6u7u8u9uAuBuCuDuEuFtB0u1u2u3u4u5u6u7u8u9uAuBuCuDuEuFtC0u1u2u3",
    "u4u5u6u7u8u9uAuBuCuDuEuFtD0u1u2u3u4u5u6u7u8u9uAuBuCuDuEuFtE0u1u2u3u4u5u6u7u8u9uAuBuCuDuEuFt",
    "F0u1u2u3u4u5u6u7u8u9uAuB"])]

end TextShell.CharName
