/-!
# Names of characters: notations and pictures

Each run starts with the code point of its first name; the names that follow are those of the code
points behind it, on as many lines as they need. The letter or sign before a name says how many
characters it shares with the name before it; any other sign in it stands for a word.
-/

namespace TextShell.CharName

/-- Notations, pictures and tags, from `U+1BC00` on. -/
def pictures : List (Nat × List String) := [
  (113664, ["aDUPLOYAN(HqXqPqTqFqKqLqBqDqVqGqRqP NqD SqF NqK MqR SqTHqSLOAN DHqDHqKKqSLOAN JqHLq",
    "LHqRHqMqNqJqSqM NqN MqJ MqS JqM)ØqN)ØqJ)Ø!S INկ]ABOVEqS)Ø!γqM SqN SqJ SqS SqM N SqN M SqJ M",
    " SqS J SqJ S)ØsNt SqS Tt RsPt RqT SsR SqWrHr RqS NsMqK R SqG R SqS Kt RqAqSLOAN OWqOArqAOUq",
    "IqEqIEqИ IqUIqEEqSLOAN EHqROMANЦIqSLOAN EEqАIqYEqUqEUqXWqU NqАUqROMANЦUqUHqSLOAN UqOOHrWrUq",
    "WArOrIrEIrOWqNASиUwOwIwAqզNIN ANyMqSLOAN ENwANwONqÂM"]),
  (113776, ["aDUPLOYAN AFFIX θλ SECANTpMID λ SECANTp| λ SECANTpВδ SECANTpMID δ SECANTpыδ SECANTp",
    "ATTACHвSECANTyÝ-TO-| SECANTyTйг!ILyE ÁyI ÁyTйг Á"]),
  (113792, ["aDUPLOYAN AFFIX ыÕuTIGHT ÕuмVEuАмVEuØuäuоuWAVEuδ"]),
  (113808, ["aDUPLOYAN AFFIX ВÕtTIGHT ÕtмVEtАмVEtØtätоtWAVEtδtARROW"]),
  (113820, ["aDUPLOYAN^ O)кjTHICK(SELECTORjαμjÀ CHINOOK ÎaИHД@AT(OОLAPrCONTINUаOОLAPrÐ STEPrUP S",
    "TEP"]),
  (118528, ["aZNAMENNY COMBINеμ GORAZDO NIZKO S KRYZHEM ШÝyNIZKO S KRYZHEM ШÝyTSATA ШÝyGORAZDO N",
    "IZKO ШÝyNIZKO ШÝySREDNE ШÝyMALO POVYSHE ШÝyPOVYSHE ШÝyVYSOKO ШÝyMALO POVYSHE S KHOKHLOM ШÝy",
    "POVYSHE S KHOKHLOM ШÝyVYSOKO S KHOKHLOM ШÝyGORAZDO NIZKO S KRYZHEM Ш|yNIZKO S KRYZHEM Ш|yTS",
    "ATA Ш|yGORAZDO NIZKO Ш|yNIZKO Ш|ySREDNE Ш|yMALO POVYSHE Ш|yPOVYSHE Ш|yVYSOKO Ш|yMALO POVYSH",
    "E S KHOKHLOM Ш|yPOVYSHE S KHOKHLOM Ш|yVYSOKO S KHOKHLOM Ш|yTSATA S KRYZHEMyMALO POVYSHE S K",
    "RYZHEMySTRANNO MALO POVYSHEyPOVYSHE S KRYZHEM,TRANNOyVYSOKO S KRYZHEMyMALO POVYSHE STRANNOy",
    "GORAZDO VYSOKOyZELOyONyRAVNOyTIKHAYAyBORZAYAyUDARKAyPODОTKAyLOMKAyKUPNAYAzACHKAyZEVOKySKOBA",
    "yRAZSEKAyKRYZH ШÝ"]),
  (118576, ["aZNAMENNY ÈTONиRйEμ MRACHNO:SVETLO:TRESVETLOtMARK ZADERZHKAyDEMESTVENNY ZADERZHKAyO",
    "TSECHKAyPODCHЬIE.)δ νyCHЬKA* POLNAYAyOBLACHKOySOROCHYA NOZHKAyTOCHKAyDVOETOCHIEtATTACHаδ OM",
    "ETtMARK CURVвOMETyKRYZHtôTONиRйE INDICATORjPRIZNAK З LEVEL-2+3!DIRECб FLIP!KRYZH!ROG"]),
  (118608, ["aZNAMENNY NEUME KRYUKu TIKHYpPARAKLITpDVA V CHELNUpKLYUCHpZANOZHEKpSTOPITSAx S OCHK",
    "OMpզEVODKAy NEPOSTOНYApSTOPITSA)SOROCHYA NOZHKApCHELYUSTKApPALKApZAPYATAYApGOLUBCHIK BORZYz",
    "TIKHYzMRACHNYzSVETLYzTRESVETLYpVRAKHIYA PROSTAYAyMRACHNAYAySVETLAYAyTRESVETLAYAyKLYUCHEVAYA",
    " PROSTAYA:MRACHNAYA:SVETLAYA:TRESVETLAYApα ZAPYATAYApéCHELYUSTKApDERBITSApKHAMILOpCHЬKApPOD",
    "CHЬIEpSKAMEYTSA MRACHNAYAzSVETLAYAzTRESVETLAYA!IKHAYApDEMESTVENNY KLYUCHpSKAMEYTSA KLYUCHEV",
    "AYA SVETLAYA+NEPOSTOНYA+VAYA TIKHAYAzDVOECHELNAYA PROSTAYA<SVETLAYA<NEPOSTOНYA<KLYUCHEVAYAq",
    "LOZHITIEy S ZAPYATOYzZAKRYTOEzS KRYZHEMpKRYZHpROGpFITApKOBYLApZMEYTSApSTATYAv S ZAPYATOYyKR",
    "YZHEMyZAPYATOY I KRYZHEMyKRYZHEM I ZAPYATOYwZAKRYTAYA* S ZAPYATOYwS ROGOMyDVUMYA ZAPYATYMIy",
    "ZAPYATOY I PODCHЬIEMpPOLKULIZMYpSTATYA NEPOSTOНYArRELA PROSTAYAwMRACHNOTIKHAYAwKRYZHEVAYAwP",
    "OLUPOVODNAYAyVODNAYAwNEPOSTOНYAwKLYUCHEPOVODNAYA%NEPOSTOНYAwTIKHAYA PUTNAYAwDVOECHELNAYA*OK",
    "RYZHEVAYA+POVODNAYA*AYA KLYUCHEVAYA*OPOVODNAYA KLYUCHEVAYAwGROMNAYA)SеLE ZAPYATAYA!OPOVODNA",
    "YA)SеLE ZAPYATAYA!NAYA!OPOVODNAYA:)α ZAPYATAYA#KRYZHEVAYA; POVODNAYApMECHIKv POVODNYwKLYUCH",
    "EVOY%POVODNY%NEPOSTOYANNYpSTRELA TRYASOGLASNAYA$POVODNAYA$STRELNAYApOSOKAu SVETLAYAvTRESVET",
    "LAYAvKRYUKOVAYA SVETLAYAwLYUCHEVAYA SVETLAYA,NEPOSTOНYApSTRELA KRYUKOVAYA+ POVODNAYA,GROMNA",
    "YA)SеLE ZAPYATAYA;OPOVODNAYA)SеLE ZAPYATAYA;NAYA;OPOVODNAYA=OVODNAYA)α ZAPYATAYA<KRYZHEVAYA",
    "=RYZHEVAYA POVODNAYA,TRYASKApKUFISMApOBLAKOpDUDApNEMKApPAUK"]),
  (118784, ["aBYZANTINE MUSICALζ нIzDASEIAzùzOXEIA EKFONITIKON*DIPLIzVAREIA EKFONITIKON+DIPLIzKA",
    "THISTIzSYRMATIKIzPARAKLITIKIzYPOKRISIS. DIPLIzKREMASTIzAPESO EKFONITIKONzEXO EKFONITIKONzTE",
    "LEIAzKгIMATAzAPOSTROFOS/ DIPLIzSYNEVMAzTHITAzOLIGШլONzGORGШլONzнONzCHAMILONzVATHYzISШլONzKг",
    "IMA լON+TA լONzSAXIMATAzPARICHONzSTAVROS APODEXIAzOXEIAI լONzVAREIAI լONzAPODERMA լON$ձMAzK",
    "LASMAzREVMAzPIASMA լONzTINAGMAzANATRICHISMAzSEISMA!YNAGMA լON,META STAVROUzOYRANISMA լONzձM",
    "AzLEMOIzDYOzTRIA!ESSERAzKRATIMATAzAPESO EXO NEOzFTHORA լONzIMIFTHORAzTROMIKШլONzKATAVA TROM",
    "IKONzPELASTON!SIFISTONzKONTEVMAzCHOREVMA լONzRAPISMAzPARAKրSMA լON&LITIKI լONzICHADINzNANAz",
    "PETASMAzKONTEVMA ЪOzTROMIKШЪOzSTRAGGISMATAzGRONTHISMATAzISШNEOzOLIGШNEO!XEIA NEOzPETASTIzKO",
    "UFISMAzPETASTOKOUFISMAzKRATIMOKOUFISMAzPELASTШNEOzKгIMATA NEO ANO+ NEO ANOzYнIzAPOSTROFOS N",
    "EO.I SYNDESMOS NEOzYPORROIzKRATIMOYPORROONzELAFRONzCHAMILIzMIKRШISONzVAREIA NEOzPIASMA NEO!",
    "SIFISTШNEOzOMALONzANTIKENOMAzLYGISMAzPARAKLITIKI NEO&րSMA NEOzEжШPARAKրSMAzKYLISMAzANTIKENO",
    "KYLISMAzTROMIKШNEOzEKSTREPTONzSYNAGMA NEO#RMAzCHOREVMA NEOzEPEGERMAzSEISMA NEOzXIRШKLASMAzT",
    "ROMIKOPSIFISTONzPSIFISTOLYGISMAzTROMIKOLYGISMA+PARAKրSMAzPSIFISTOPARAKրSMAzTROMIKOSYNAGMAzP",
    "SIFISTOSYNAGMAzGORGOSYNձTONzARGOSYNձTONzEжШARGOSYNձTONzOYRANISMA NEOzձMATISMOS ESO<XO& APLO",
    "UN$S KAI APOձSzKATAVASMAzENDOFONONzYFEN KATO&ANOzSTAVROSzKLASMA ANOzDIPLI լONzKRATIMA լON.L",
    "LO,NEOzAPODERMA NEO#LIzDIPLIzTRIPLI!ETRAPLIzKORONISzLEIMMA ENOS CHRONOU+DYO CHRONON+TRIШCHR",
    "ONON,ESSARШCHRONON+IMISEOS CHRONOUzGORGШNEO ANO+PARESTIGMENШARISжA=GMENШDEXIAzDIGORGON, PAR",
    "ESTIGMENШARISжA KATO=TIGMENШARISжA ANO=TIGMENШDEXIAzTRIGORGONzARGONzIMIDIARGONzDIARGONzAGOG",
    "I POLI ARGI*ARGOжI.I*METRIA,SI*GORGI/OжI*POLI GORGIzMARTYRIA PROTOS ICHOS.ЪI PROTOS ICHOS.D",
    "EYжOS ICHOS.ЪI DEYжOS ICHOS.TRITOS ICHOS;FONIAS/ETARTOS ICHOS=TOS LEGETOS ICHOS.LEGETOS ICH",
    "OS.PLAGIOS ICHOSzISAKIA TELOUS ICHIMATOSzAPOSTROFOI TELOUS ICHIMATOSzFANEROSIS TETRAFONIAS/",
    "MONOFONIAS/DIFONIASzMARTYRIA VARYS ICHOS.PROTOVARYS ICHOS/LAGIOS TETARTOS ICHOSzGORTHMIKШN ",
    "APLOUN<DIPLOUNzENARXIS KAI FTHORA VOUzIMIFONON%THORONzFTHORA լШDEYжOU ICHOU+DIATONIKI PA=KI",
    " NANA+NAOS ICHOS+DIATONIKI DI+SKLIRШDIATONШDI+DIATONIKI KE=KI ZO=KI NI KATO=KI NI ANO+MALAK",
    "ШCHROMA DIFONIAS= CHROMA MONOFONIAS!HTORA SKLIRШCHROMA VASIS!THORA SKLIRШCHROMA SYNAFI+NENA",
    "NOzCHROA ZYGOS*KLITON*SPATHIzFTHORA I YFESIS TETARTIMORION+ENARMONIOS ANTIFONIAzYFESIS TRIT",
    "IMORIONzDIESIS TRITIMORION,ETARTIMORION+APLI DYO DODEKATA+MONOмMMOS TESSERA DODEKATA+DIмMMO",
    "S EX DODEKATA+TRIмMMOS OKTO DODEKATAzYFESIS APLI DYO DODEKATA+MONOмMMOS TESSERA DODEKATA+DI",
    "мMMOS EX DODEKATA+TRIмMMOS OKTO DODEKATAzGENIKI DIESIS+YFESISzDIASTOLI APLI MIKRI=MEGALI.DI",
    "PLI.ձSEOSzSIMANSIS ձSEOS=OS DISIMOU=OS TRISIMOU=OS TETRASIMOU.ARSEOS=S DISIMOU=S TRISIMOU=S",
    " TETRASIMOUzDIмMMA GG#FTOGGOS OUzSTIGMAzARKTIKO PA,VOU,GA,DI,KE,ZO,NIzKгIMATA NEO MESO+ NEO",
    " MESO+TA NEO KATO+ NEO KATO!LASMA KATOzGORGШNEO KATO"]),
  (119040, ["aMUSICALζÑдоpαдоpιдоpREОSE ιдоpDЬвBARоpИдоpθREPEAT^p| REPEAT^qEPEATÄpDиSEGNOr CAPOp",
    "SEGNOpCODApREPEATвFIGURE-1*2*3pFERMATAwγpBREATHμpCAESURApBRACEtKETpÍ-о STAFFpÃ-о STAFFqþ-о ",
    "STAFFpñ-о STAFFqл-о STAFFpГ-о STAFFtSTRаFRETBOARDpñ-STRаFRETBOARDpG CLEFv OTTAVA ALTA%BASSA",
    "pC CLEFpF CLEFv OTTAVA ALTA%BASSApDRUM CLEF-1z2"]),
  (119081, ["aMUSICALζ MULTIPLE MEASURE RESTpα чRPwFLATpFLAT UPuÐpNATURиUPxÐpчRP UPvÐpQUARж TÍ ч",
    "RP$FLATpCOMMШTIMEqUT TIMEpOTTAVA ALTAwBASSApQUINDICESIMA ALTA$BASSApMULTI RESTpWHOLE RESTpÌ",
    "RESTpQUARж RESTpìH RESTpГTEгH RESTpTօ-SECOND RESTpГTY-ñTH RESTpÍο TWгY-ìH RESTpXմEхpPLUSմEх",
    "pä XմEхpêմEх թ*ρpTRIйLEմEх UP թ:ρ,θթ<ρ,| թ=ρ,Ð թ<ρ,UP | թ=HT ρpMOШNOTEх թ%ρpTRIйLE-ROUNDմEх",
    " Ð թ=Ð ρpúմEхpVOIDմEхpNOTEх ρqULLմEхpCLUSжմEх թ+ρpХpWHOLEմEpÌNOTEpQUARжմEpìHմEpГTEгHմEpTօ-S",
    "ECONDմEpГTY-ñTHմEpÍο TWгY-ìHմEpÈSTEM!PRECHGESй STEMzTREMOLO-1,2,3pFеERвTREMOLO-1+2+3pÈAUGMг",
    "Aб ØzFLAG-1&2&3&4&5pBEGIN BEAMpEND BEAMpBEGIN TIEpEND TIEpBEGIN SLURpEND SLURpBEGIN PHRASEp",
    "END PHRASEpÈACCгzSTACCATOzեUTOzSTACCATISSIMOzMARCATO+-STACCATOzACCг-STACCATOzLOUREpARPEGGIA",
    "TO UP!ÐpÈDOITzRIPzFLIPzSMEARzBENDzα TONGUEzЖTONGUEpRINFORZДOpSUBITOpZpPIANOpMEZZOpFORTEpCRE",
    "SCENDOpDECRESCENDOpмCEմE SLЬ!NO SLЬpTRqURNpðTURNpTURN SLЬuUPpË ν-1*2*3*4*5*6*7*8*9*10+1pHAU",
    "PTSTIMMEpNEBENSTIMMEpENDûSTIMMEpDEУ SLЬpÈÐ BOWzUP BOWzHARMONICzSNAP PIZZICATOpPEDALμvUPμpÌP",
    "EDALμpGLISSДO UPzÐpWITH FеERNAILSpDAMPt ЪpMAXIMApLONGApBREVISpSEMIBREVIS թ!ρpMINIMAv ρpSEMI",
    "MINIMA թ!ρpFUSA թuρpLONGA զFECTA RESTvIMզFECTA RESTpBREVIS RESTpSEMIBREVIS RESTpMINIMA REST",
    "pSEMIMINIMA RESTpTEMPUS զFECTUM CUM PROLATIÍ զFECTA=LATIÍ IMզFECTA=LATIÍ զFECTA DIMINUб-1wI",
    "MզFECTUM CUM PROLATIÍ զFECTA=ROLATIÍ IMզFECTA=ROLATIÍ IMզFECTA DIMINUб-1=ROLATIÍ IMզFECTA D",
    "IMINUб-2=ROLATIÍ IMզFECTA DIMINUб-3pCROIXpGREGORЦC CLEFzF CLEFpê BpVIRGApPODATUSpCLIVISpSCД",
    "ICUSpCLIMACUSpTORCULUSpPORRECTUSy FLEXUSpSCДICUS FLEXUSpTORCULUS RESUPINUSpPES SUBPUNCTISpK",
    "IEVAN C CLEFwENDûPIECEwιմEwRECITATлμwWHOLEմEwÌNOTEwQUARжմE STEM Ð= UPwìHմE STEM Ð=UPwFLAT^p",
    "SORIpKORON"]),
  (119296, ["aУK VOCиNքбζ-1$2$3$4$5$6$7$8$9$10%1%2%3%4%5%6%7%8%9$20%1%2%3%4$50%1%2%3%4gINSTRUMги",
    "Nքбζ-1/2/4/5/7/8/11:2:3:4:7:8:9/23:4:5:6:7:9/30:2:6:7:8:9/40:2:3:5:7:8:9/50:1:2:3:4aÈУK MUS",
    "ICиTRISEMEzETRASEMEyPгASEMEaУK MUSICиLEIMMA"]),
  (119520, ["aMAYAN NUMERиZEROoÍoÃpþoñpлoГpÛoìoÞoեoELÛoTWELVEpHIRTգoñTգpIFTգoГTգpÛTգoìգoÞTգ"]),
  (119552, ["aMONOмM FOR EARTHaDIмM FOR HEAVENLY EARTHmUMAN EARTHlEARTHLY HEAVENuUMANqaTETRAмM F",
    "OR CгREoFULL äoMIREDoBARRIERoKEEPа?oCONTRARIETYoASCгoOPPOSIбoBRANCHаOUToDEFECTлNESS OR DIST",
    "ORбpлRGENCEoYOUTHFULNESSoINCREASEoPENETRAбoREACHoCONTACToHOLDаBACKoWAITеoFOLLOWеoADVANCEoRE",
    "LEASEqSISTANCEoEASEoJOYoCONեбoENDEAVOURoDUTIESoCHйEoDECISлNESSoBոRESOLUбoPACKеoLEGIONoCLOSE",
    "NESSoKINSHIPoGAձRеoSTRENGTHoPURITYoFULLNESSoREկNCEoLAW OR MODELoRESPONSEoGOаTO MEEToENCOUNж",
    "SoSTOVEoGREATNESSoENщMгoPATжNoRITUALoFÉoVASTNESS OR WASTеoCONSTANCYoMEASUREoEжNITYoUNITYoDI",
    "MINISHMгoCLOSвMOUTHoGUARDEDNESSpAձRаINoMASSеoACCUMULAбoEMBELLISHMгoDOUBToWATCHoSINKеoINNERo",
    "DEPARTUREpARKENеpIMMеoEXHAUSбoSEОANCEpTOPPAGEoHARDNESSoCOMPLEбpLOSUREoFAILUREoAGмVAбoCOMPLI",
    "ANCEoШձ ОGEoDIFFICULTIESoLABOURеoFOSже"]),
  (119648, ["aCOUNTаROD UNIT փÍyÃzþyñzлyГzÛyìyÞnեS փÍyÃzþyñzлyГzÛyìyÞaIDEOмPHջTЪYμ ÍxÃyþxñyлaTЪY",
    "μ ÍlFл"]),
  (119808, ["aψBո> A!B!C!D!E!F!G!H!I!J!K!L!M!N!O!P!Q!R!S!T!U!V!W!X!Y!Zs? AyByCyDyEyFyGyHyIyJyKyL",
    "yMyNyOyPyQyRySyTyUyVyWyXyYyZnITALջ> A$B$C$D$E$F$G$H$I$J$K$L$M$N$O$P$Q$R$S$T$U$V$W$X$Y$Zu? A",
    "!B!C!D!E!F!G"]),
  (119894, ["aψITALջ? I!J!K!L!M!N!O!P!Q!R!S!T!U!V!W!X!Y!ZnBոITALջ> A,B,C,D,E,F,G,H,I,J,K,L,M,N,O",
    ",P,Q,R,S,T,U,V,W,X,Y,Zz? A*B*C*D*E*F*G*H*I*J*K*L*M*N*O*P*Q*R*S*T*U*V*W*X*Y*Znт> A"]),
  (119966, ["aψт> C$D"]),
  (119970, ["aψт> G"]),
  (119973, ["aψт> J$K"]),
  (119977, ["aψт> N$O$P$Q"]),
  (119982, ["aψт> S$T$U$V$W$X$Y$Zu? A!B!C!D"]),
  (119995, ["aψт? F"]),
  (119997, ["aψт? H!I!J!K!L!M!N"]),
  (120005, ["aψт? P!Q!R!S!T!U!V!W!X!Y!ZnBոт> A,B,C,D,E,F,G,H,I,J,K,L,M,N,O,P,Q,R,S,T,U,V,W,X,Y,Z",
    "z? A*B*C*D*E*F*G*H*I*J*K*L*M*N*O*P*Q*R*S*T*U*V*W*X*Y*ZnFRAKTUR > A%B"]),
  (120071, ["aψFRAKTUR > D%E%F%G"]),
  (120077, ["aψFRAKTUR > J%K%L%M%N%O%P%Q"]),
  (120086, ["aψFRAKTUR > S%T%U%V%W%X%Y"]),
  (120094, ["aψFRAKTUR ? A#B#C#D#E#F#G#H#I#J#K#L#M#N#O#P#Q#R#S#T#U#V#W#X#Y#Znα-STRUCK > A/B"]),
  (120123, ["aψα-STRUCK > D/E/F/G"]),
  (120128, ["aψα-STRUCK > I/J/K/L/M"]),
  (120134, ["aψα-STRUCK > O"]),
  (120138, ["aψα-STRUCK > S/T/U/V/W/X/Y"]),
  (120146, ["aψα-STRUCK ? A,B,C,D,E,F,G,H,I,J,K,L,M,N,O,P,Q,R,S,T,U,V,W,X,Y,ZnBոFRAKTUR > A.B.C.",
    "D.E.F.G.H.I.J.K.L.M.N.O.P.Q.R.S.T.U.V.W.X.Y.Z!? A+B+C+D+E+F+G+H+I+J+K+L+M+N+O+P+Q+R+S+T+U+V",
    "+W+X+Y+ZnЧ > A+B+C+D+E+F+G+H+I+J+K+L+M+N+O+P+Q+R+S+T+U+V+W+X+Y+Zy? A&B&C&D&E&F&G&H&I&J&K&L&",
    "M&N&O&P&Q&R&S&T&U&V&W&X&Y&ZyBո> A;B;C;D;E;F;G;H;I;J;K;L;M;N;O;P;Q;R;S;T;U;V;W;X;Y;Z%? A/B/C",
    "/D/E/F/G/H/I/J/K/L/M/N/O/P/Q/R/S/T/U/V/W/X/Y/ZyITALջ> A=B=C=D=E=F=G=H=I=J=K=L=M=N=O=P=Q=R=S",
    "=T=U=V=W=X=Y=Z*? A;B;C;D;E;F;G;H;I;J;K;L;M;N;O;P;Q;R;S;T;U;V;W;X;Y;ZyBոITALջ> A=ITиB=ITиC=I",
    "TиD=ITиE=ITиF=ITиG=ITиH=ITиI=ITиJ=ITиK=ITиL=ITиM=ITиN=ITиO=ITиP=ITиQ=ITиR=ITиS=ITиT=ITиU=IT",
    "иV=ITиW=ITиX=ITиY=ITиZ:? A=LL B=LL C=LL D=LL E=LL F=LL G=LL H=LL I=LL J=LL K=LL L=LL M=LL N",
    "=LL O=LL P=LL Q=LL R=LL S=LL T=LL U=LL V=LL W=LL X=LL Y=LL ZnMONOSPACE > A*B*C*D*E*F*G*H*I*",
    "J*K*L*M*N*O*P*Q*R*S*T*U*V*W*X*Y*Zx? A%B%C%D%E%F%G%H%I%J%K%L%M%N%O%P%Q%R%S%T%U%V%W%X%Y%ZnITA",
    "Lջ? ØLESS I.J"]),
  (120488, ["aψBո> ALPHA!BETA!GAMMA!DELTA!EнON!ZETA!ETA!ձTA!Iք!KAPPA!սDA!MU!NU!XI!OMICRON!PI!RHO",
    "!ձTAζ!SIGMA!TAU!UнON!PHI!CHI!PSI!OMEGAsNABLAs? ALPHAyBETAyGAMMAyDELTAyEнONyZETAyETAyձTAyIքy",
    "KAPPAyսDAyMUyNUyXIyOMICRONyPIyRHOyι SIGMAySIGMAyTAUyUнONyPHIyCHIyPSIyOMEGAsPARTIиDIFFERгIAL",
    "sEнONζsձTAζsKAPPAζsPHIζsRHOζsPIζnITALջ> ALPHA$BETA$GAMMA$DELTA$EнON$ZETA$ETA$ձTA$Iք$KAPPA$ս",
    "DA$MU$NU$XI$OMICRON$PI$RHO$ձTAζ$SIGMA$TAU$UнON$PHI$CHI$PSI$OMEGAuNABLAu? ALPHA!BETA!GAMMA!D",
    "ELTA!EнON!ZETA!ETA!ձTA!Iք!KAPPA!սDA!MU!NU!XI!OMICRON!PI!RHO!ι SIGMA!SIGMA!TAU!UнON!PHI!CHI!",
    "PSI!OMEGAuPARTIиDIFFERгIALuEнONζuձTAζuKAPPAζuPHIζuRHOζuPIζnBոITALջ> ALPHA,BETA,GAMMA,DELTA,",
    "EнON,ZETA,ETA,ձTA,Iք,KAPPA,սDA,MU,NU,XI,OMICRON,PI,RHO,ձTAζ,SIGMA,TAU,UнON,PHI,CHI,PSI,OMEG",
    "AzNABLAz? ALPHA*BETA*GAMMA*DELTA*EнON*ZETA*ETA*ձTA*Iք*KAPPA*սDA*MU*NU*XI*OMICRON*PI*RHO*ι S",
    "IGMA*SIGMA*TAU*UнON*PHI*CHI*PSI*OMEGAzPARTIиDIFFERгIALzEнONζzձTAζzKAPPAζzPHIζzRHOζzPIζnЧ Bո",
    "> ALPHA;BETA;GAMMA;DELTA;EнON;ZETA;ETA;ձTA;Iք;KAPPA;սDA;MU;NU;XI;OMICRON;PI;RHO;ձTAζ;SIGMA;",
    "TAU;UнON;PHI;CHI;PSI;OMEGA%NABLA%? ALPHA/BETA/GAMMA/DELTA/EнON/ZETA/ETA/ձTA/Iք/KAPPA/սDA/MU",
    "/NU/XI/OMICRON/PI/RHO/ι SIGMA/SIGMA/TAU/UнON/PHI/CHI/PSI/OMEGA%PARTIиDIFFERгIAL%EнONζ%ձTAζ%",
    "KAPPAζ%PHIζ%RHOζ%PIζ%ITALջ> ALPHA=ITиBETA=ITиGAMMA=ITиDELTA=ITиEнON=ITиZETA=ITиETA=ITиձTA=I",
    "TиIք=ITиKAPPA=ITиսDA=ITиMU=ITиNU=ITиXI=ITиOMICRON=ITиPI=ITиRHO=ITиձTAζ=ITиSIGMA=ITиTAU=ITиU",
    "нON=ITиPHI=ITиCHI=ITиPSI=ITиOMEGA:NABLA:? ALPHA=LL BETA=LL GAMMA=LL DELTA=LL EнON=LL ZETA=L",
    "L ETA=LL ձTA=LL Iք=LL KAPPA=LL սDA=LL MU=LL NU=LL XI=LL OMICRON=LL PI=LL RHO=LL ι SIGMA=LL ",
    "SIGMA=LL TAU=LL UнON=LL PHI=LL CHI=LL PSI=LL OMEGA:PARTIиDIFFERгIAL:EнONζ:ձTAζ:KAPPAζ:PHIζ:",
    "RHOζ:PIζnBո> DIGAMMAs? DIGAMMA"]),
  (120782, ["aψBոáyÍyÃzþyñzлyГzÛyìyÞnα-STRUCK á,Í,Ã.þ,ñ.л,Г.Û,ì,ÞnЧ á&Í&Ã*þ&ñ*л&Г*Û&ì&ÞyBոá/Í/Ã:",
    "þ/ñ:л/Г:Û/ì/ÞnMONOSPACE á%Í%Ã&þ%ñ&л%Г&Û%ì%ÞaSIGNWRITаHД-FISTøräøsUPørOVALørHеEørйLEørFISTø ",
    "Bгräø BгrFIST р UNDERø BгwINDEX RAISвKNUCKLE$CUPPED$HеED. LOWräø HеErFISTø MIDDLEräø MIDDLE",
    "rFISTø ξBг/RAISвKNUCKLES/HеED$UP ξHеED$HевξUP$ξCONJOINED=OINEDø Bг=OINвξBг=OINвCUPPED=OINвH",
    "еED:ROSSEDräø ξкEDrFIST ξBг OОøwINDEX BгüMIDDLE$ξрräø ξрrFISTø ξЮ р Bг/Bг р Ю/р Bг/HевSPREA",
    "D р կ$UP ξHевр կ=евр CONJOINED$HевξUP р կ$ξUP SPREAD р FORWARD/р CUPPED=B äD=B ÁED=B HеEDwр",
    " BETWգø ξЮwINDEX ξCONJOINвр կ=OINвр կ CONJOINED=OINвр կ Bгwξр ÁEDø UPwINDEX р ÁвξUP$ξCONJOI",
    "NвHевр կ:ROSSвр կ:ONJOINвр FORWARD=OINвCUPPвр FORWARDwξр CUPPEDø UPwINDEX р CUPPвξUPwξр äDø",
    " UP=LEDø HеEDwINDEX р йLвOUT ξUP=D IN ξUP.äD ξUP$ξр CONJOINвHеED=B йLвOUT=B йLEDwξр йLвOUTø",
    " UP=вOUTø кED=EDø UPwINDEX р ÁвξHеEDsLAT ñ FеERS. Bг/HеED/CONJOINED=OINвSPLITrCLAW ñ FеERS ",
    "CONJOINEDrFIST ñ FеERS CONJOINвBгrHеE ñ FеERS CONJOINEDrFLAT Fл FеERS SPREADwHEEL Fл FеERS ",
    "SPREADwFл FеERS SPREAD ñ BгwHEEL Fл FеERS SPREAD ñ BгwFл FеERS SPREAD BгwHEEL Fл FеERS SPRE",
    "AD BгwFл FеERS SPREAD р FORWARDrCUP Fл FеERS SPREAD=D OPENrHеE Fл FеERS SPREAD OPENrOVиFл F",
    "еERS SPREADrFLAT Fл FеERS SPREAD HеED=AD Hевр կ=AD HевNO рvv BETWգ PALM FACеSwHEELwр կwHEEL",
    " р կwр Bг$FORWARDwSPLITø р կ$CгRE. р կ=B կ Bг$эrCLAWv р կwNO рwр FORWARDrÁ CURLICUEvrCUP OP",
    "ENuu Ер կvр կvЕNO рvNO рvЕр FORWARDvр FORWARDtRLICUE OPENzsIRCLErOVALv р կwNO рwр FORWARDrH",
    "еE OPEN# р FORWARDww ?xЕр կxр կxЕNO рxNO рxр կ TOUCHеø%BETWգ ξRеrйLErFISTø ξRеräø ξRеrHеEø ",
    "ξRеrйLEø ξRеrHеE эrFISTø ξRаBг= CONJOINEDrHеEø ξRаCONJOINEDrFIST э Ð, RIPPLE Ю=E CURVED.OձR",
    "S äD%UPwр UNDER э UPrä э UPrOVиэ UPrйLE э UPrFIST э RAISвKNUCKLE%Bг%TOUCHES р&HUMBrHеE э рr",
    "FIST эø рrHеE эø рrйLE эø рø р OUT=MBø рrFIST эørä эørHеE эørйLE эørFISTø ξэräø ξэrHеEø ξэx",
    "RеrйLEø ξэrFISTø ξк эräø ξк эrFIST RаÐrHеE RаÐø р Á MIDDLErйLE RаÐ ξрø кrFIST RаUP#RAISвKNU",
    "CKLE#эrä RаэrOVиRаэrйLE RаэrFIST RаMIDDLE, CONJOINED.RAISвKNUCKLES#INDEX#рrÁ RарrFISTø Rаэr",
    "äø RаэsURLICUEø Rаэ ONrÁø Rаэ OUT= IN= UNDERrCUPø RаэrHеEø RаэrйLEø Rаэ OUT=ErFIST ξÐrHеE M",
    "IDDLErFIST ξUPrä ξUPrFIST ξRAISвKNUCKLE%UP р կrÁ ξрrFIST ξр э%э%Rаэrä ξRаэsURLICUE ξRаэ ONt",
    "P ξRаэrHеE ξRаэrйLE ξRаэ OUT=LE IN=LErä ξRаэ BгsLAW ξRаэ CONJOINED=E CONJOINвկrÁ ξRаэ CONJO",
    "INвOUT=E CONJOINвIN=E CONJOINEDsеEø HеEDrFISTø р կrHеEø р կrFISTø р կ р РAL=р CONJOINED=р B",
    "г=INDEX Bг=BOTH Bг=INDEX HеE.FORWARDø Ю=RDø Bг.Á.CURLICUE;VE р INկrCLAWø р CURVE р INկrFIST",
    "ø р CURVE р UNDER/IRCLErCUPø р+ OPENrHеEø р OPEN/щ.. ?rйLEø р OUT/IN.rFIST р# HEEL$կ РAL,CO",
    "NJOINED,Bг$FORWARD$BETWգø MIDDLE:ξRе:Rаэ$UNDER Ã FеERS$OО Ã FеERS$UNDER Tþ FеERS.ñ FеERS$OО",
    " ñ RAISвKNUCKLESvv HEELmTOUCHÑsMULTIPLEsBETWգmмSPÑsMULTIPLEsBETWգmSTRIKEÑtMULTIPLEtBETWգmBR",
    "USHÑsMULTIPLEsBETWգmRUBÑqMULTIPLEqBETWգmSURFACEζSuBETWգnQUEEZE щÑu?Ñuщ MULTIPLEu? MULTIPLEv",
    "EQUгIALmFLICK щÑs?Ñsщ MULTIPLEs? MULTIPLEtEQUгIALmSQUEEZE FLICK ALжNATеmMOVEMг-HеE UP Ð щ/?",
    "&SEQUгIAL#Ð SEQUгIAL#UP Ð ALжNATащ=RNATа?#կ TO կ SCISSORSvWЪЙ FеER CONTACTvպЙ FеER CONTACTv",
    "WЪЙÑ Ю ?=TRAIGHT ý=TRAIGHT щ=TRAIGHT щST<WRIST FLEX*α Ю<WRIST FLEX<ALжNATе=LжNATаWRIST FLEX",
    "*к*ЖЮ MOVEMг<WRIST FLEX<ALжNATе=LжNATаWRIST FLEX*BEND ?:ý:щ*է ?<ý<щ<Rքб+HECK ?;ý;щ*BOX ?/ý/",
    "щ*ZIGZAG ?<ý<щ*PEAKS ?;ý;щmTRAVEL-WЪЙ Rքб-WЪЙÑ=ЪЙ α=ЪЙ ALжNATе<պЙÑ=LOORЙ α=LOORЙ ALжNATе%чK",
    "е%ARM SPIRALÑ= α= TRIPLEmMOVEMг-РиAWAY ?/ý/щ=EST&TOæ ?<ý<щ=ARGEST&BETWգ AWAY ?=WAY ý=WAY щ=",
    "WAY щST<TOæ ?=Oæ ý=Oæ щ=Oæ щSTvպЙÑ Ю ?=Ю ý=Ю щ=Ю щST=WRIST FLEX+α Ю=WRIST FLEX=ALжNATе=ALжN",
    "ATаWRIST FLEX+к+ЖЮ MOVEMг=WRIST FLEX=ALжNATаMOVEMг=ALжNATаWRIST FLEX+BEND+է ?=ý=щ,HECK+BOX ",
    "?:ý:щ+ZIGZAG ?=ý=щ+PEAKS ?<ý<щmTRAVEL-պЙ Rքб-պЙÑ=պЙ α=պЙ ALжNATе=WЪЙÑ=WЪЙ α=WЪЙ ALжNATе&чKе",
    "mMOVEMг-WЪЙ CURVE QUARж ?=ARж ý=ARж щ=ARж щST;HALF-ä ?=LF-ä ý=LF-ä щ=LF-ä щST;Tþ-QUARж ä ?=",
    "REE-QUARж ä ý*HUMP ?:ý:щ*LOOP ?:ý:щ:? α*WAVE CURVE α ?=VE α ý=VE α щ=VE Ж?=VE Жý=VE Жщ*CURV",
    "E ձN Ю:D к ?=ROSS ýmRքб-WЪЙÑ*α*ALжNATEmMOVEMг-WЪЙ чKе*CURVE HITTаFRONT WЪ*HUMP HITTаFRONT W",
    "Ъ*LOOP HITTаFRONT WЪ*WAVE HITTаFRONT WЪmRքб-WЪЙÑ HITTаFRONT WЪ*α HITTаFRONT WЪ*ALжNATаHITTа",
    "FRONT WЪmMOVEMг-WЪЙ CURVE HITTаCHEST*HUMP HITTаCHEST*LOOP HITTаCHEST*WAVE HITTаCHESTmRքб-WЪ",
    "ЙÑ HITTаCHEST*α HITTаCHEST*ALжNATаHITTаCHESTmMOVEMг-WЪЙ WAVE РиPATH ?=GONиPATH ý=GONиPATH щ",
    "vպЙ CURVE HITTаCEILа?=ITTаCEILащ+HUMP HITTаCEILа? α=TTаCEILащ α=TTаCEILа? TRIPLE=TTаCEILащ ",
    "TRIPLE+LOOP HITTаCEILа?Ñ=TTаCEILащÑ=TTаCEILа? α=TTаCEILащ α+WAVE HITTаCEILа?=TTаCEILащmRքб-",
    "պЙÑ HITTаCEILе+α HITTаCEILе+ALжNATаHITTаCEILеmMOVEMг-պЙ CURVE HITTаպ ?=ITTаպ щ+HUMP HITTаպ ",
    "? α=TTаպ щ α=TTаպ Ж? TRIPLE=TTаպ Жщ TRIPLE+LOOP HITTаպ ?Ñ=TTаպ щÑ=TTаպ ? α=TTаպ щ α+WAVE HI",
    "TTаպ ?=TTаպ щmRքб-պЙÑ HITTаպ+α HITTаպ+ALжNATаHITTаպmMOVEMг-պЙ CURVE ?<ý<щ=ARGEST<COMBINED+H",
    "UMP ?+LOOP ?+WAVE SNAKE<MЪ;щmRքб-պЙÑ+α+ALжNATеmMOVEMг-պЙ чKаPARЪELvWЪЙ ARM ä ?Ñ=LE ýÑ=LE ? ",
    "α=LE ý αvպЙ ARM ä HITTаWЪ ?Ñ=CLE HITTаWЪ ýÑ=CLE HITTаWЪ щÑ=CLE HITTаWЪ ? α=CLE HITTаWЪ ý α=",
    "CLE HITTаWЪ щ αvWЪЙ WRIST ä FRONTÑ=RCLE FRONT αvպЙ WRIST ä HITTаWЪÑ=IRCLE HITTаWЪ αvWЪЙ FеE",
    "R äSÑ=IRCLES αvպЙ FеER äS HITTаWЪÑ=äS HITTаWЪ αmDYNAMIC[х ?&щuFASTuSLOWuեSEuRELAXEDuSIMULTA",
    "NEOUS+ ALжNATеuEОY OձR TIMEuмDUALmхq RIMrMOVEMг-WЪЙ Ю:TILT!պЙ Ю!WЪЙ CURVE!պЙ CURVEz ämFACE ",
    "DIRECб POSIб NOSE FORWARD TILTе=E UP OR Ð=E UP OR Ð TILTеmEYEBROWS Ю UP&NEUTRAL&ÐmDREAMY EY",
    "EBROWS NEUTRиÐ$Ð NEUTRAL$UP NEUTRAL$NEUTRиUPmFOREх NEUTRALvCONTACTvWRINKLEDmEYES OPENrSQUEE",
    "ZEDrCLOSEDp BLINKÑwMULTIPLEpS ÌOPENrWIDE OPENrÌCLOSEDrWIDENаMOVEMгp WINKpLЬES UPwÐwFLUTжеpG",
    "AZE-WЪЙ Ю< α=ALжNATеuպЙ Ю= α= ALжNATеuWЪЙ CURVEDuպЙ CURVEDuWЪЙ CIRCLеmCHEEKS PUFFEDtNEUTRAL",
    "tSUCKEDmեSE CHEEKS HIGHzMIDDLEzLOWmEARSmNOSE NEUTRALrCONTACTrWRINKLESsIGGLESmAIR BLOWаOUTqS",
    "UCKаINqBВ? RքбSqSUCK ? RքбSmBREATH INHրtEXHրmMOUTH CLOSвNEUTRALzFORWARDzCONTACTsSMILEx WRIN",
    "KLEDyOPENsFROWNx WRINKLEDyOPENsЕäxFORWARDxWRINKLEDxOVAL# WRINKLED$YAWNxRECTйLE+ WRINKLED,YA",
    "WNsKISSw FORWARDxWRINKLEDsեSEx FORWARDySUCKEDmLIPS PRESSвTOGEձRp ôOО UPզqUPզüLOWERmMOUTH էS",
    "sWRINKLESÑ#αmTONGUE STICKаOUT FARtLICKаLIPStTIP BETWգ LIPSxTOUCHаINկ MOUTHtINկ MOUTH RELAXE",
    "DtMOVES AGւST CHEEKtCгRE STICKаOUT!INկ MOUTHnEETHr MOVEMгsШTONGUE# MOVEMгvLIPSz MOVEMгsBITE",
    " LIPSmMOVEMг-WЪЙ JAWvպЙ JAWmNECKmHAIRmEXCITEMгmSHOULDER HIP SPINEzPOSIбSmWЪЙ SHOULDER HIP M",
    "OVEmպЙ SHOULDER HIP MOVEmSHOULDER TILTаFROM WAISTmTORSO-WЪЙ Ю STRETCH$CURVвBENDsպЙ TWISTеmÅ",
    "BODY TILTаFROM HIP JOINTSmLIMB COMBINAбrLENGTH-1y2y3y4y5y6y7mFеERmLOCAб-WЪЙ SPACEvպЙ SPACEu",
    " HìvWIDTHvDEPTHvх NECKvTORSOvLIMBS DIGITSmПmÎmSEMICOLONmCOLONmú"]),
  (121499, ["aSIGNWRITаFILL З-2!3!4!5!6"]),
  (121505, ["aSIGNWRITаRքб З-2&3&4&5&6&7&8&9&10*1*2*3*4*5*6"]),
  (122624, ["aя?(FENG DIмPH)TRILLtéтGgυ? > öGg?(éKgυ? > L)BELTg?(LEZH)ítöY)BELTtéENGtöR)АLEG]íu)",
    "Á]ígυRETROFLEX CLICK)íg?(ESH)αд<]CURLtöT)CURLgυðGLOTTиSTOP)CURLnSTRETCHвC)CURLoMЪ > öKg?(L)",
    "FISHÁtDEZH DIмPH)PALATиÁtL)BELT]PALATиÁtENG)PALATиÁtöR)PALATиÁtR)FISHÁ]PALATиÁtTESH DIмPH)P",
    "ALATиÁtEZH)PALATиÁtDEZH DIмPH)ítI)ν]ítO)ítTESH DIмPH)ítC)ítS)CURL"]),
  (122880, ["aÈGLAGOLITIC(AZU$BUKY$VEDE$GLAGOLI$DOBRO$YESTU$ZHлTE"]),
  (122888, ["aÈGLAGOLITIC(ZEMLJA$IZHE%NITIиIZHE%$DJERVI$KAKO$LJUDIJE$MYSLITE$NЬI$ONU$POKOJI$RITS",
    "I$SLOVO$TVRIDO$UKU$FRITU$HERU"]),
  (122907, ["aÈGLAGOLITIC(SHTA$TSI$CHRIVI$ч$YERU*I%ATI"]),
  (122915, ["aÈGLAGOLITIC(YU$? YUS"]),
  (122918, ["aÈGLAGOLITIC(YO$IքTв? YUS$BIG YUS$IքTвBIG YUS$FITA"]),
  (123136, ["aNYIAKENG PUACHUE HMONG(MA&TSA&NTA&TA&HA&NA&XA&NKA&CA&LA&SA&ZA&NCA*TSA&KA&DA&NYA*RA",
    "&VA&NTXA&TXA&FA&RA&QA&YA&NQA&PA&XYA&NPA&DLA&NPLA&ժ&MLA&PLA&GA&RRA&A*A&I&U&O*O&E*E&W"]),
  (123184, ["aNYIAKENG PUACHUE HMONG TÍ-B$M$J$V$S$G$DxÖFOR զSON+THе+LOCAб+ANIMAL+INОTEBRATE$XW X",
    "WyYLLABLE LENGձNER"]),
  (123200, ["aNYIAKENG PUACHUE HMONG á%Í%Ã&þ%ñ&л%Г&Û%ì%Þ"]),
  (123214, ["aNYIAKENG PUACHUE HMONG LOGOмM NYAJxäD CA"]),
  (123536, ["aTOTO(PAmBAmTAmDAmKAmGAmMAmNAnGAmSAmCHAmYAmWAmJAmHAmRAmLAmImBREATHY ImIUmBREATHY IU",
    "mUmEmBREATHY EmEOmBREATHY EOmOmAEmBREATHY AEmAfÖRISаTÍ"]),
  (123584, ["aWANCHO(AApoBAoCAoDAoGAoYAoPHAoLAoNAoPAoTApHAoFAoSApHAoJAoZAoWAoVAoKAoOoAUoRAoMAoKH",
    "AoHAoEoIoNGAoUoLLHAoTSApRAoONGoAйpNGoеoONoENoAANoNYAoUENoYIHhTÍ TUPpNImKOIpNIhánÍnÃoþnñoлnГ",
    "oÛnìnÞ"]),
  (123647, ["aWANCHO NGUN^"]),
  (124896, ["aåHHYAvUvIvAAvEEwvO"]),
  (124904, ["aåGURAGE HHWAsHHWIvEEw"]),
  (124909, ["aåGURAGE MWI#EE"]),
  (124912, ["aåGURAGE QWI#EE$zBWI#EEzKWI#EE$zGWI#EE$zFWI#EEzPWI#EE"]),
  (124928, ["aMENDE KIKAKUI չM001 KI!2 KA!3 KUz65 KEEz95 KEz76 KOOz48 KOy179 KUAy004 WI!5 WA!6 W",
    "Uy126 WEEz18 WE!4 WOOy045 WOy194 WUIz43 WEIy061 WVIz49 WVAy139 WVEy007 MIN!8 MAN!9 MUNz59 M",
    "ENz94 MONy154 MUANz89 MUENy010 BI!1 BA!2 BUy150 BEEy097 BEy103 BOOz38 BOy013 I!4 A!5 Uy163 ",
    "EEz00 Ez65 OOz47 Oz37 EI!1 IN!5 INz95 ANz78 ENy019 SIz20 SA!1 SUy162 SEEz16 SEz36 SOOy079 S",
    "Oy196 SIAy025 LI!6 LA!7 LUz84 LEEz73 LEz54 LOOy153 LOz10 АLEy016 DI!7 DA!8 DUz89 DEEy180 DO",
    "O!1 DOy022 TI!3 TA!4 TUz91 TEEz55 TEy104 TOOy069 TOz28 JI!9 JAz30 JUy157 JEEz13 JEz60 JOOy0",
    "63 JOy175 АJOy031 YI!2 YA!3 YUy109 YEEy080 YEy141 YOOz21 YOy034 FI!5 FA!6 FUz78 FEE!5 FEy13",
    "3 FOOy088 FOy197 FUAz01 FANy037 NIN!8 NAN!9 NUNy117 NENz69 NONz76 HIy041 HAy186 HUy040 HEEz",
    "96 HEz42 HOOy140 HOy083 HEEIy128 HOOUy053 HINy130 HANy087 HUNz52 HENy193 HONy046 HUANz90 NG",
    "GIz43 NGGAz82 NGGUy115 NGGEEz46 NGGEz56 NGGOOz20 NGGOz59 NGGAAz27 NGGUAy086 АNGGEy106 АNGGO",
    "Oz83 АNGGOz55 GIz11 GAz68 GUz90 GEEz66 GUEI!7 GUANz84 NGENy057 NGONy177 NGUANy068 PIz99 PAz",
    "50 PUz81 PEEz51 PEy102 POOy066 POy145 MBIy062 MBAy122 MBUy047 MBEEy188 MBEEy072 MBEy172 MBO",
    "O!4 MBOz87 MBUUz61 АMBEz05 АMBOOz42 АMBOz32 KPIy092 KPAz74 KPUz44 KPEEy108 KPEz12 KPOOz58 K",
    "POz24 GBIy056 GBAy148 GBUy093 GBEEy107 GBEy071 GBOO!0 GBOy171 RAz23 NDI!9 NDA!5 NDUz91 NDEE",
    "z19 NDEy067 NDOO!4 NDOy152 NJAz92 NJUz49 NJEEz34 NJOOz82 VI!5 VAz51 VUz73 VEEy085 VEy144 VO",
    "Oy077 VOy164 NYINy058 NYANy170 NYUNy098 NYENz60 NYON"]),
  (125127, ["aMENDE KIKAKUI փÍuÃvþuñvлuГvÛuìuÞoÈс TգS,NS*HUNDREDS*THOUSДS+ENςS*HUNDREDςS*MILLION",
    "S"]),
  (125184, ["aADս >(ALIFvDAALIvLAAMvMIIMvBAvSINNYIIYHEvPEvBHEvRAvEvFAvIvOvDHAvYHEvWAWvNUNvKAFvYA",
    "vUvJIIMvCHIvHAvQAAFvGAvNYAvTUvNHAvVAvKHAvGBEvZALvKPOvчg?(ALIFtDAALItLAAMtMIIMtBAtSINNYIIYHE",
    "tPEtBHEtRAtEtFAtItOtDHAtYHEtWAWtNUNtKAFtYAtUtJIIMtCHItHAtQAAFtGAtNYAtTUtNHAtVAtKHAtGBEtZALt",
    "KPOtчgALIF LENGձNERgò LENGձNERgGEMINAбμgHAMZAgդ ЗgGEMINATE դ ЗgNUKTAhASALIZAбμ"]),
  (125264, ["aADս ámÍmÃnþmñnлmГnÛmìmÞ"]),
  (125278, ["aADս η EXCսAбμoQUESбμ"]),
  (126065, ["aINDջSIYAQ с ÍtÃuþtñuлtГuÛtìtÞtեuWгYuօtFORTYuIFTYtГTYuÛTYtìYtÞTYtÍοtÃοuþοtñοuлοtГοu",
    "ÛοtìοtÞοtÍςtÃςuþςtñςuлςtГςuÛςtìςtÞςtեςuWгYςuօςtFORTYςuIFTYςtГTYςuÛTYςtìYςtÞTYςtLAKHxANmLAKH",
    "μmс KARORyANtPREFIXвÍ$Ã%þ$ñ%л$Г%Û$ì$ÞmPLACEHOLDERmFRACб Í QUARжzHALFvTþ QUARжSmRUPEEμmс ALж",
    "NATE Í%Ã&ENςmALжNATE LAKHμ"]),
  (126209, ["aOTTOMAN SIYAQ с ÍvÃwþvñwлvГwÛvìvÞvեwWгYwօvFORTYwIFTYvГTYwÛTYvìYvÞTYvÍοvÃοwþοvñοwлο",
    "vГοwÛοvìοvÞοvÍςvÃςwþςvñςwлςvГςwÛςvìςvÞςvեςwWгYςwօςvFORTYςwIFTYςvГTYςwÛTYςvìYςvÞTYςoMARRATAN",
    "oALжNATE с Ã+þ*ñ+л*Г+Û*ì*Þ*ե*ñο*Гο*Ãς+ENςoFRACб Í HALF#ГTH"]),
  (126464, ["aф ψրFuBEHuЫuDAL"]),
  (126469, ["aф ψWAWuZւuժuTAHuցuKAFuսuÒuNOONuSգuւuFEHuSADuQAFuREHuSHգuTEHvHEHuKժuTHALuDADuZAHuGH",
    "ւuØLESS BEH$NOON$FEH$QAF"]),
  (126497, ["aф ψη BEH$Ы"]),
  (126500, ["aф ψη HEH"]),
  (126503, ["aф ψη ժ"]),
  (126505, ["aф ψη ց$KAF$ս$Ò$NOON$Sգ$ւ$FEH$SAD$QAF"]),
  (126516, ["aф ψη SHգ$TEH%HEH$Kժ"]),
  (126521, ["aф ψη DAD"]),
  (126523, ["aф ψη GHւ"]),
  (126530, ["aф ψЩвЫ"]),
  (126535, ["aф ψЩвժ"]),
  (126537, ["aф ψЩвց"]),
  (126539, ["aф ψЩвս"]),
  (126541, ["aф ψЩвNOON#Sգ#ւ"]),
  (126545, ["aф ψЩвSAD#QAF"]),
  (126548, ["aф ψЩвSHգ"]),
  (126551, ["aф ψЩвKժ"]),
  (126553, ["aф ψЩвDAD"]),
  (126555, ["aф ψЩвGHւ"]),
  (126557, ["aф ψЩвØLESS NOON"]),
  (126559, ["aф ψЩвØLESS QAF"]),
  (126561, ["aф ψSTRETCHвBEH&Ы"]),
  (126564, ["aф ψSTRETCHвHEH"]),
  (126567, ["aф ψSTRETCHвժ&TAH&ց&KAF"]),
  (126572, ["aф ψSTRETCHвÒ&NOON&Sգ&ւ&FEH&SAD&QAF"]),
  (126580, ["aф ψSTRETCHвSHգ&TEH*HEH&Kժ"]),
  (126585, ["aф ψSTRETCHвDAD&ZAH&GHւ&ØLESS BEH"]),
  (126590, ["aф ψSTRETCHвØLESS FEH"]),
  (126592, ["aф ψLOOPвրF#BEH#Ы#DAL#HEH#WAW#Zւ#ժ#TAH#ց"]),
  (126603, ["aф ψLOOPвս#Ò#NOON#Sգ#ւ#FEH#SAD#QAF#REH#SHգ#TEH$HEH#Kժ#THAL#DAD#ZAH#GHւ"]),
  (126625, ["aф ψα-STRUCK BEH.Ы.DAL"]),
  (126629, ["aф ψα-STRUCK WAW.Zւ.ժ.TAH.ց"]),
  (126635, ["aф ψα-STRUCK ս.Ò.NOON.Sգ.ւ.FEH.SAD.QAF.REH.SHգ.TEH/HEH.Kժ.THAL.DAD.ZAH.GHւ"]),
  (126704, ["aф ψOզATOR Ò)ժ)TATWEEL%ժ)DAL"]),
  (126976, ["aMAHJONG TILE EAST WINDnSOUTH WINDnWEST WINDnNORTH WINDnRвDRAGONnУN DRAGONnσDRAGONn",
    "ÍûCHARACжSnÃûCHARACжSoþûCHARACжSnñûCHARACжSoлûCHARACжSnГûCHARACжSoÛûCHARACжSnìûCHARACжSnÞûC",
    "HARACжSnÍûBAMBOOSnÃûBAMBOOSoþûBAMBOOSnñûBAMBOOSoлûBAMBOOSnГûBAMBOOSoÛûBAMBOOSnìûBAMBOOSnÞûB",
    "AMBOOSnÍûäSnÃûäSoþûäSnñûäSoлûäSnГûäSoÛûäSnìûäSnÞûäSnPLUMnORCHIDnBAMBOOnCHRYSANձMUMnSPRеoUMM",
    "ERnAUTUMNnWINжnJOKERnBACK"]),
  (127024, ["aDOMINO TILE λ BACKw-00-00#1#2#3#4#5#6y1-00#1#2#3#4#5#6y2-00#1#2#3#4#5#6y3-00#1#2#3",
    "#4#5#6y4-00#1#2#3#4#5#6y5-00#1#2#3#4#5#6y6-00#1#2#3#4#5#6mδ BACKu-00-00z1z2z3z4z5z6w1-00z1z",
    "2z3z4z5z6w2-00z1z2z3z4z5z6w3-00z1z2z3z4z5z6w4-00z1z2z3z4z5z6w5-00z1z2z3z4z5z6w6-00z1z2z3z4z",
    "5z6"]),
  (127136, ["aPLAYаCARD BACKnACEûSPADESnÃûSPADESoþûSPADESnñûSPADESoлûSPADESnГûSPADESoÛûSPADESnìû",
    "SPADESnÞûSPADESnեûSPADESnJACKûSPADESnKNIGHTûSPADESnQUգûSPADESnKеûSPADES"]),
  (127153, ["aPLAYаCARD ACEûծSnÃûծSoþûծSnñûծSoлûծSnГûծSoÛûծSnìûծSnÞûծSnեûծSnJACKûծSnKNIGHTûծSnQU",
    "գûծSnKеûծSnRвJOKER"]),
  (127169, ["aPLAYаCARD ACEûуSnÃûуSoþûуSnñûуSoлûуSnГûуSoÛûуSnìûуSnÞûуSnեûуSnJACKûуSnKNIGHTûуSnQU",
    "գûуSnKеûуSnρ JOKER"]),
  (127185, ["aPLAYаCARD ACEûCLUBSnÃûCLUBSoþûCLUBSnñûCLUBSoлûCLUBSnГûCLUBSoÛûCLUBSnìûCLUBSnÞûCLUB",
    "SnեûCLUBSnJACKûCLUBSnKNIGHTûCLUBSnQUգûCLUBSnKеûCLUBSnσJOKERnFOOLnTRUMP-1t2t3t4t5t6t7t8t9t10",
    "u1u2u3u4u5u6u7u8u9t20u1"]),
  (127232, ["aá ÎlПgÍ ПgÃ Пhþ Пgñ Пhл ПgГ ПhÛ Пgì ПgÞ ПcNGBAT äD Ч áiNEGATл äD Ч áaäD ZERO)SLЬiA",
    "NTICьWISE[iDOLLAR^)OОLAID BACKSLЬaPARгHESIZвя>(A/B/C/D/E/F/G/H/I/J/K/L/M/N/O/P/Q/R/S/T/U/V/",
    "W/X/Y/ZaБπвя>(SaäD ITALջя>(C:RiCDiWZbOPYÝζaêD я>(A%B%C%D%E%F%G%H%I%J%K%L%M%N%O%P%Q%R%S%T%U%",
    "V%W%X%Y%ZiHViMViSDjSiPPViWCaNEGATл äD я>(A<B<C<D<E<F<G<H<I<J<K<L<M<N<O<P<Q<R<S<T<U<V<W<X<Y<",
    "ZaRAISвMC^iD^iR^aäD CCj)OОLAID BACKSLЬiHUMAN FIGUREaNEGATл êD я>(A<B<C<D<E<F<G<H<I<J<K<L<M<",
    "N<O<P<Q<R<S<T<U<V<W<X<Y<ZaквNEGATл êD я>(PaNEGATл êD ICrPArSArABrWCaê DJgD CLjOOLiFREEiIDiN",
    "EWjGiOKiSOSiUP)EXCսAбμiVSiTþ DiSECOND SCRգiÃ Kiñ Kiì KiFлբ ÍiSÛբ ÍiTWгY-Ãբ ÃiГTY PiÍο TWгY ",
    "Piя?(DiHCjDRjI-RESiLOSSLESSiSHViUHDiVODaMASK WORKζ"]),
  (127462, ["aREGIONиINDICATORζ(A,B,C,D,E,F,G,H,I,J,K,L,M,N,O,P,Q,R,S,T,U,V,W,X,Y,Zaê HIRAGANA H",
    "OKAgD KATAKANA KOKOrSA"]),
  (127504, ["aêD CJK UNIFIвIDEOмPH-624B&5B57*3CCiKATAKANA DEiCJK UNIFIвIDEOмPH-4E8C&591A&89E3&59",
    "29&4EA4&6620&7121&6599&524D*F8C*18D&65B0&521D&7D42*51F&8CA9&58F0*439&6F14*295*355&4E00,9&90",
    "4A&5DE6&4E2D&53F3&6307&8D70&6253&7981*A7A&5408&6E80*709,8&7533&5272*5B6&914D"]),
  (127552, ["aБπвCJK UNIFIвIDEOмPH-672C=EOмPH-4E09=EOмPH-4E8C=EOмPH-5B89=EOмPH-70B9=EOмPH-6253=E",
    "OмPH-76D7=EOмPH-52DD=EOмPH-6557"]),
  (127568, ["aäD IDEOмPH ADVANTAGEtCCEPT"]),
  (127584, ["aROUNDEDζ FOR FUtLUtSHOUtXItSHUйXItCAI"]),
  (127744, ["aCYCLÍaFOGGYaCLOSвUMBRELLAaNIGHT)հSaSUNRISEüMOUNTւShaCITYSCAPE AT DUSKaSUNSETüBUILD",
    "еSaRւBOWaBRIDGE AT NIGHTaWAж WAVEaVOLCANOaMILKY WAYaEARTH GLOBE EUROPE-AFRICAmAMERICASnSIA-",
    "AUSTRALIAaGLOBE)MERIDIANSaNEW MOONζaWAXаCRESCг MOONζaFIRST QUARж MOONζaWAXаGIBBOUS MOONζaFU",
    "LL MOONζaWANаGIBBOUS MOONζaLAST QUARж MOONζaWANаCRESCг MOONζaCRESCг MOONaNEW MOON)FACEaFIRS",
    "T QUARж MOON)FACEaLAST QUARж MOON)FACEaFULL MOON)FACEaSUN)FACEaGLOWаհaSHOOTаհaձRMOMEжaρ DRO",
    "PLETaσSUNj)? CLOUDkBEHIND CLOUDw)RւaCLOUD)RւlSNOWlÉNеlTORNADOaFOGaWIND BLOWеÔaHOT DOGaTACOa",
    "BURRITOaCHESTNUTaSEEDLеaEОУN TREEaDECIDUOUS TREEaPALM TREEaCACTUSaHOT PEPզaTULIPaCHERRY BLO",
    "SSOMaROSEaHIBISCUSaSUNFLOWERaBLOSSOMaEARûMAIZEhRICEaHERBañ LEAF CLOОaMAPLE LEAFaFЪEN LEAFaL",
    "EAF FLUTжаIN WINDaMUSHROOMaTOMATOaAUBERGINEaмPESaMELONaWAжMELONaTйERINEaLEMONaBANANAaPINEAP",
    "PLEaRвAPPLEaУN APPLEaPEARdCHaCHERRIESaSTRAWBERRYaHAMBURGERaSLICEûPIZZAaMEAT ШBÍaPOULTRY LEG",
    "aRICE CRACKERfBЪaCOOKвRICEbURRY]RICEaSTEAMаBOWLbPAGHETTIaBREADaFRENCH FRIESaROASTвSWEET PքT",
    "OaDйOaODENaSUSHIaFRIвSHRIMPbISH CAKE)SWIRL DESIGNaSOFT ICE CREAMbHAVвICEaICE CREAMaDOUGHNUT",
    "aCOOKIEbHOCOLATEдbДYaLOLLIPOPaCUհDaHÍY POTaИCAKEaBгO BOXaPOTûFOODaCOOKеaFORK]KNIFEaTEACUP W",
    "ITHOUT HДLEaSAKE BOTTLE]CUPaWINE GLASSaCOCKЩ GLASSaTROPICиDRINKaBEER MUGaCLINKаBEER MUGSaBA",
    "BY BOTTLEaFORK]KNIFE)PLATEaBOTTLE)POPPаCORKaPOPCORNaRIBBONaWRAPPвPRESгaBIRTHDAY CAKEaJACK-O",
    "-LANжNaCHRISTMAS TREEaFAձR CHRISTMASbIREWORKSi SPARKLERaBЪOONaPARTY POPզaCONFETTI BЪaTANABA",
    "TA TREEaквFLAGSaPINE DECORAбaJAPANESE DOLLSaCARP STREAMERaWIND CHIMEaMOШVIEWаCEREMONYaSCHOO",
    "L SATCHELaмDUAб CAPaծ)TIP Шձ ÝaBOUQUETûFLOWERSaMILITARY MEDALaREMINDER RIBBONaMUSICиKEYBOAR",
    "D)JACKSaSTUDIO MICROPHÍaLEVEL SLIDERaCONTROL KNOBSaBEAMвASCENDаMUSICиNOTEShDESCENDаMUSICиNO",
    "TESaFILM FRAMESaADMISSIШTICKETSaCAROUSEL HORSEaFERRIS WHEELaROLLER COASжaFISHаPOLE]FISHaMIC",
    "ROPHÍbOVIE CAMERAaCINEMAaхPHÍaARTIST PրTTEaTOP HATaCIRCUS TгaTICKETaCLAPզ BOARDaզFORMаARTSa",
    "VIDEO GAMEaDIRECT HITaSLOT MACHINEaBILLIARDSaGAME DIEaBOWLеaFôPLAYаCARDSaMUSICиNOTEcLTIPLE ",
    "MUSICиNOTESaSAXOPHÍaGUITARaMUSICиKEYBOARDaTRUMPETaVIOLINaMUSICиSCOREaRUNNаSHIRT)SЬaեNIS RAC",
    "QUET]BЪaSKI]SKI BOOTaBASKETBЪ]HOOPaCHEQUERвFLAGaSNOWBOARDERaRUNNERaSURFERbPORTS MEDALaTROPH",
    "YaHORSE RACеaAMERICAN FOOTBЪaRUGBY FOOTBЪaSWIMMERaWì LIFжaGOLFERaRACаMOTORCYCLEhCARaCRICKET",
    " BAT]BЪaVOLLEYBЪaFIELD HOCKEY STICK]BЪaICE HOCKEY STICK]PUCKaTABLE եNIS PADDLE]BЪaSNOW CAPP",
    "вMOUNTւaCAMPеaBEACH)UMBRELLAbUILDаCONSTRUCбaHOUSE BUILDеSaCITYSCAPEaDERELICT HOUSE BUILDеaC",
    "LASSICиBUILDеaDESERTg ISLДaNAбиPARKaSTADIUMaHOUSE BUILDеgWITH GARDENaOFFICE BUILDеaJAPANESE",
    " POST OFFICEaEUROPEAN POST OFFICEaHOSPITALaBANKaAUTOMATвTELLER MACHINEaHOTELaLOVE HOTELaCON",
    "VENIENCE STOREaSCHOOLaDEPARTMг STOREaFACTORYaIZAKAYA LANжNaJAPANESE CASTLEaEUROPEAN CASTLEa",
    "σPENNANTaρ PENNANTaWAVаσFLAGhρ FLAGaROSETTEaρ ROSETTEaLABELaBADMINTШRACQUET]SHUTTLECOCKbOW ",
    "Д[aAMPHORAaEMOJI З FITZPATRICK TYPE-1-2+3+4+5+6aRATaMOUSEaOXaWAж BUFFALOaCOWaTIGERaLEOPARDa",
    "RABBITaCATaDRAGONaCROCODILEaWHրaSNAILdKEaHORSEaRAMaGOATaSHEEPaMONKEYaROOSжaCHICKENaDOGaPIGa",
    "BOARaELEPHANTaOCTOPUSaSPIRиSHELLaBUGaANTaHÍYBEEaLADY BEETLEaFISHaTROPICиFISHaBLOWFISHaTURTL",
    "EaHATCHаCHICKaBABY CHICKaFRONT-FACаBABY CHICKaBIRDaPENGUINaKOALAaPOODLEaDROMEDARY CAMELaBAC",
    "TRЦCAMELaDOLPHINaMOUSEÔaCOWÔaTIGERÔaRABBITÔaCATÔaDRAGONÔaSPOUTаWHրaHORSEÔaMONKEYÔaDOGÔaPIGÔ",
    "aFROGÔaHAMSжÔaWOLFÔaBEARÔaPДAÔbIG NOSEbAW PRINTSaCHIPMUNKaEYESdbARaNOSEaMOUTHaTONGUEaσUP κ ",
    "BACKHДøgÐ κ BACKHДøgθκ BACKHДøg| κ BACKHДøaFISTвHД^aWAVаHД^aOK HД^aрS UP^hÐ^aCLAPPаHДS^aЕHД",
    "S^aCROWNaWOMANS HATaEYEGLASSESaNECKTIEaT-SHIRTaJEANSaDRESSaKIMONOaBIKINIaWOMANS CLOձSaPURSE",
    "aHДBAGaPOUCHaMANS SHOEaATHLETջSHOEaHIGH-HEELвSHOEaWOMANS SДALhBOOTSaFOOTPRINTSaBUST IN SILH",
    "OUETTEeS IN SILHOUETTEbOYaGIRLaMANaWOMANaFAMILYaMAN]WOMAN HOLDаHДSaÃ MEN HOLDаHДSeWOMEN HOL",
    "DаHДSaPOLICE OFFICERaWOMAN)BUNNY EARSaBRIDE)VEILaզSON)BLOND HAIRaMAN)GUA PI MAOjTURBANaOLDE",
    "R MANgWOMANaBABYaCONSTRUCб WORKERaPRINCESSaJAPANESE OGREjGOBLINaGHOSTaBABY йELaEXTRAжRESTRI",
    "иALIENaALIEN MONSжaIMPaSKULLaINFORMAб DESK զSONaGUARDSMANaDANCERaLIPSTICKaNAIL POLISHaFACE ",
    "MASSAGEaHAIRCUTaBARBER POLEaSYRеEaPILLaKISSμaLOVE LETжaRеaGEM STÍaKISSaBOUQUETaCOUPLE)ծaWED",
    "DеaBEATаծbROKEN ծaÃ ծSaSPARKLаծaGROWаծaծ)ARROWaBLUE ծaУN ծaYELВծaPURPLE ծaծ)RIBBONaREVOLVаծ",
    "Saծ DECORAбaу чPE)A Ø INկaELECTRջÉ BULBaйERζaBOMBaSLEEPеζaCOLLISIONζaSPLЬаSWEATζaDROPLETbЬζ",
    "aPILEûPOOaFLEXвBICEPSaDIZZYζaSPEECH BЪOONaTHOUGHT BЪOONaσFLOWERaHUNDRвPOINTSζaMÍY BAGaCURRE",
    "NCY EXCHйEaç DOLLAR^aCREDIT CARDaBANKNOTE)YEN^oDOLLAR^oEURO^oPOUND^aMÍY)WеSaCHART)UPæ TREND",
    "]YEN^aSEATaզSONиCOMPUжaBRIEFCASEaMINIDISCaFLOPPY DISKaOPTICиDISCaDVDaFILE FOLDERaЕFILE FOLD",
    "ERaPAGE)CURLfFACаUPaCրNDARaTEAR-OFF CրNDARaCARDøbHART)UPæ TRENDlτ TRENDaBAR CHARTaCLIPBOARD",
    "aPUSHPINaROUND PUSHPINaPAզCLIPaЮ RULERaTRIйФRULERaBOOKMARK TABSaLEDGERaNOTEBOOKi)DECORATл C",
    "OОaCLOSвBOOKaЕBOOKaУN BOOKaBLUE BOOKaORйE BOOKaBOOKSaNAME BADGEaSCROLLaMEMOaTELEPHÍ RECEлRa",
    "PAGERaFAX MACHINEaSATELLITE ANեNAaPUBLջADDRESS LOUDSPEAKERaCHEERаMEGAPHÍaOUTBOX TRAYaINBOX ",
    "TRAYaPACKAGEaE-MAILζaINCOMаENVELOPEaENVELOPE)τ[_aCLOSвMAILBOX)LOWERвFLAGuRAISвFLAGaЕMAILBOX",
    ")RAISвFLAGsLOWERвFLAGaPOSTBOXeиHORNaNEWSPAզaMOBILE PHÍm)|æ[ AT ÝaVIBRAб MODEaMOBILE PHÍ OFF",
    "aNO MOBILE PHÍSaANեNA)BARSaCAMERAg)FLЬaVIDEO CAMERAaTELEVISIONaRADIOaVIDEOCASSETTEaFILM PRO",
    "JECTORaPORTABLE SжEObRAYER BEADSaTWISTв|æ[SaCьWISE |æ]ε Еä[S= ä[S)äD Í OОLAYkτ]UPæ Еä[SaANT",
    "ICьWISE τ]UPæ Еä[SaВB|NESSζaыB|NESSζaSPEAKER)CANCELLAб νhh)Í SOUND WAVEnTþ SOUND WAVESaBATж",
    "YaELECTRջPLUGaÝ-κ MAGNIFYаGLASSa|-κ MAGNIFYаGLASSaь)INK PENaCLOSвь)KEYaKEYaьaЕьaBELLe)CANCE",
    "LLAб νbOOKMARKaLINKζaRADIO BUTTONaBACK)ε[_aEND)ε[_aON)EXCսAбμ)θ|[_aSOON)|æ[_aTOP)UPæ[_aNO Í",
    " UNDER ìգζaKEYCAP եaINPUTζ FOR я> LETжSx? LETжSrсSrSYMBOLSrяLETжSaFIREaELECTRջTORCHaWRENCHa",
    "HAMMERaNUT]BOLTaHOCHOaPISTOLaMICROSCOPEaTELESCOPEaCRYSTиBЪaГբвհ)ξØaJAPANESEζ FOR BEGINNERaT",
    "RIDг EMBLEMaρ ê BUTTONaσê BUTTONaщ RвägBLUE ägORйE уgBLUE уa? ORйE уgBLUE уaUP-κ REDβaÐ-κ R",
    "EDβaUP-κ ? REDβaÐ-κ ? REDβaô| чDOWвσäaÅ| чDOWвσäaäD к POMMEEbROSS POMMEE)HALF-äγmaNOTCHвθSE",
    "MIä)TþÄi| SEMIä)TþÄaSYMBOL FORμS CHAPжaσякaç якaCELTջкaOMζaDOVEûPEACEaKAABAaMOSQUEaSYNAGOGU",
    "EaMENORAH)Þ BRANCHESaBOWLûHYGIEIAaCьÔ Í OCьlÃ OCьmþ OCьlñ OCьmл OCьlГ OCьmÛ OCьlì OCьlÞ OCь",
    "lե OCьlELÛ OCьlTWELVE OCьlÍ-TօlÃ-Tօmþ-Tօlñ-Tօmл-TօlГ-TօmÛ-Tօlì-TօlÞ-Tօlե-TօlELÛ-TօlTWELVE-T",
    "օa| SPEAKERn)Í SOUND WAVEtTþ SOUND WAVESaBULLHORNi)SOUND WAVESaRеаBELLaBOOKaCДLEaMANTELPIEC",
    "E Cьaρ SKULL]кBÍSaNO PIRACYaHOLEaMAN IN BUSINESS SUIT LEVITATеaSLEUTH OR SPYaDARK SUNGLASSE",
    "SaSPIDERg WEBaJOYSTICKaMAN DANCеaθHД TELEPHÍ RECEлRaTELEPHÍ RECEлR)PAGEa| HД TELEPHÍ RECEлR",
    "aσTOUCHTÍ TELEPHÍaρ TOUCHTÍ TELEPHÍaTELEPHÍ ШTOPûMODEMaCսSHELL MOBILE PHÍaBACKûENVELOPEaSTA",
    "MPвENVELOPEaENVELOPE)ÉNеaFLYаENVELOPEaPENüSTAMPвENVELOPEaLINKвPAզCLIPSaρ PUSHPINaôθPENCILlB",
    "ЪPOINT PENlFOUNTւ PENlPւTBRUSHlCRAYONbEFT WRITаHДaöOK HД^aRAISвHД)FеERS SPLAYEDbEОSвRAISвHД",
    ")FеERS SPLAYEDjрS UP^qÐ^jVICTORY HДjHД)ξFеER EXեDEDbAISвHД)PART BETWգ MIDDLE]RаFеERSaσÐ κ θ",
    "HДøaկWAYS σθκøp| κøjρ θκøp| κøaρ θκ BACKHДøg| κ BACKHДøaկWAYS σUP κøpÐ κøjρ UP κøpÐ κøaρ UP",
    " κ BACKHДøgÐ κ BACKHДøgծaDESKTOP COMPUжaKEYBOARD]MOUSEaTþ NEÃRKвCOMPUжSaPRINжbOCKET CALCULA",
    "TORaρ HARD SHELL FLOPPY DISKaσHARD SHELL FLOPPY DISKaSOFT SHELL FLOPPY DISKaTAPE CARTRIDGEa",
    "WIRвKEYBOARDaÍ BUTTШMOUSEaÃ BUTTШMOUSEbþ BUTTШMOUSEbRACKBЪaոզSONиCOMPUжaHARD DISKaSCRգaPRIN",
    "ж ICONaFAX ICONaOPTICиDISC ICONaDOCUMг)TEXTs]PICTUREoPICTUREaFRAME)PICTURElTILESlAN Xaρ FOL",
    "DERaFOLDERaЕFOLDERaCARDø DIVIDERSfFILE BOXaFILE CABINETaEMPTYմEk PAGEnDaNOTEe PAGEhDaEMPTY ",
    "DOCUMгgPAGEkSaDOCUMгaPAGEeSaWASTEBASKETaSPIRиNOTE PADhCրNDAR PADaDESKTOP WINDOWaMINIMIZEbAX",
    "IMIZEaOОLAPaCьWISE |]θSEMIä[SbANCELLAб XaINCREASE FONT SIZEζaDECREASE FONT SIZEζaCOMPRESSIO",
    "NaոKEYaROLLED-UP NEWSPAզaPAGE)äD TEXTaSTOCK CHARTaDAGGER KNIFEaLIPSaSPEAKах IN SILHOUETTEaT",
    "þ RAYS_lBELOWlÝl|aθSPEECH BUBBLEa| SPEECH BUBBLEaÃ SPEECH BUBBLESbþ SPEECH BUBBLESaθTHOUGHT",
    " BUBBLEa| THOUGHT BUBBLEaθйER BUBBLEa| йER BUBBLEaMOOD BUBBLEaÉNаMOOD BUBBLEoaBЪOT BOX)BЪOT",
    "hтXhBOX)тXjLD тXjX)BոтXaÉ CHECKμaBЪOT BOX)BոCHECKaWORLD MAPaMOUNT FUJIaTOKYO TOWERaSTATUEûL",
    "IBERTYbILHOUETTEûJAPANaMOYAIaGRINNеÔn)SMILаEYESaFACE)TEARSûJOYaSMILеÔ)ЕMOUTH$]SMILаEYES,CոS",
    "WEAT,TIGHTLY-CLOSвEYESsHALOtORNSaWINKеÔaSMILеÔ)SMILаEYESaFACE SAVOURаDELICIOUS FOODaRELIEVE",
    "DÔaSMILеÔ)ծ-чPвEYESsSUNGLASSESdRKеÔaNEUTRALÔaEXPRESSIONLESSÔaUNAMUSEDÔaFACE)CոSWEATaPENSлÔa",
    "CONFUSEDÔeOUNDEDÔaKISSеÔaFACE THROWаA KISSaKISSеÔ)SMILаEYESsCLOSвEYESaFACE)STUCK-OUT TONGUE",
    "!]WINKаEYE*TIGHTLY-CLOSвEYESaDISAPPOINTEDÔaWORRIEDÔaйRYÔaPOUTеÔaCRYеÔaզSEОеÔaFACE)LOOKûTRIU",
    "MPHaDISAPPOINTвBUT RELIEVEDÔaFROWNеÔ)ЕMOUTHaйUISHEDÔaFEARFULÔaWEARYÔaSLEEPYÔaTIREDÔaGRIMACе",
    "ÔaLOUDLY CRYеÔaFACE)ЕMOUTHaHUSHEDÔaFACE)ЕMOUTH]CոSWEATfSCREAMаIN FEARaASTONISHEDÔaFLUSHEDÔa",
    "SLEEPеÔaDIZZYÔaFACE WITHOUT MOUTHj MEDICиMASKaGRINNаCATÔ)SMILаEYESaCATÔ)TEARSûJOYaSMILаCATÔ",
    ")ЕMOUTHwծ-чPвEYESaCATÔ)WRY SMILEaKISSаCATÔ)CLOSвEYESaPOUTаCATÔaCRYаCATÔaWEARY CATÔaSÉLY FRO",
    "WNеÔjSMILеÔaUPկ-ÐÔaFACE)ROLLаEYESkNO GOOD GESTUREkOK GESTUREaզSШBOWаDEEPLYaSEE-NO-EVIL MONK",
    "EYaHEAR-NO-EVIL MONKEYaSPEAK-NO-EVIL MONKEYaHAPPY զSШRAISаÍ HДaզSШRAISаBOTH HДS IN CELEBRAб",
    "hFROWNеhWITH POUTеÔmFOLDвHДSaС κ LEAFaSOUTH WEST κ LEAFaNORъ κ LEAFaSOUъ κ LEAFaöС κ LEAFhS",
    "OUTH WEST κ LEAFhNORъ κ LEAFhSOUъ κ LEAFaС κ VINE LEAFaSOUTH WEST κ VINE LEAFaNORъ κ VINE L",
    "EAFaSOUъ κ VINE LEAFaç С κ VINE LEAFgSOUTH WEST κ VINE LEAFgNORъ κ VINE LEAFgSOUъ κ VINE LE",
    "AFaС κ BUDaSOUTH WEST κ BUDaNORъ κ BUDaSOUъ κ BUDaç С κ BUDgSOUTH WEST κ BUDgNORъ κ BUDgSOU",
    "ъ κ BUDbOLВQUILT ê Ë$ IN ρ êaSOLID QUILT ê Ë# IN ρ êaε ROCKETaUPæ ROCKETa|æ ROCKETaτ ROCKET",
    "aтLюET Ëaç тLюET ËaLюЕET Ëaç LюЕET ËgAMզSД ËaSWЬ AMզSД ËbANS-SERIF ç α öП QUքбμ ËyП QUքбμ Ë",
    "rВα П QUքбμ Ëaç INжROBй ËaЧ INжROBй Ëaç Ч INжROBй ËaОY ç SOLIDUSlREОSE SOLIDUSaCHECKER BOAR",
    "DaREОSE CHECKER BOARDbOCKETaHELICOPжaSTEAM LOCOMOTлaRAILWAY CARaHIGH-SPEвTRւq)BULLET NOSEaT",
    "RւaMETROaÉ RAILaSTAбaTRAMe CARaBUSaONCOMаBUSaTROLLEYBUSaBUS STOPaMINIBUSaAMBULANCEaFIRE ENG",
    "INEaPOLICE CARaONCOMаPOLICE CARaTAXIaONCOMаTAXIaAUTOMOBILEaONCOMаAUTOMOBILEaRECREAбиVEHICLE",
    "aDELлRY TRUCKaARTICULATвLORRYaTRACTORaMONORAILcUNTւ RAILWAYaSUSPENSIШRAILWAYaMOUNTւ CABLEWA",
    "YaAERIиTRAMWAYaSHIPaROWBOATaSPEEDBOATaλ TRAFFջÉaδ TRAFFջÉaCONSTRUCб^aPOLICE CARS REVOLVаÉaT",
    "RIйФFLAG ШPOSTaDOORaNO гRY^aSMOKеζaNO SMOKеζaPUT LITж IN ITS PLACEζaDOմ LITжζaPքBLE WAжζaNO",
    "N-PքBLE WAжζaBICYCLEaNO BICYCLESaBICYCLISTaMOUNTւ BICYCLISTaPEDESTRIANaNO PEDESTRIANSaCHILD",
    "REN кеaMENSζaWOMENSζaRESTROOMaBABYζaTOILETaWAж CLOSETaSHOWERaBATHeTUBaPASSPORT CONTROLaCUST",
    "OMSaBAGGAGE CLAIMaθLUGGAGEaTRIйLE)ROUNDвէSaPROHIBITED^aäD INFORMAб SOURCEaBOYSζaGIRLSζaCOUC",
    "H]սPaSLEEPаACCOMMODAбbHOPPаBAGSaBELLHOP BELLcDaPLACEûWORSHIPaOCTAGONAL^aSHOPPаTROLLEYbTUPAa",
    "PAGODAaHINDU TEMPLEbUTaELEVATOR"]),
  (128733, ["aPLAYGROUND SLIDEaWHEELaRаBUOYaHAMMER]WRENCHaSHIELDaOIL DRUMaMOTORWAYaRAILWAY TRACK",
    "aMOTOR BOATaUP-κ MILITARY AIRЙmAIRЙm? AIRЙa? AIRЙaNORձAST-κ AIRЙaAIRЙ DEPARTUREjARRIVе"]),
  (128752, ["aSATELLITEaONCOMаFIRE ENGINEaDIESEL LOCOMOTлaPASSENGER SHIPaSCOOжaMOTOR SCOOжaCANOE",
    "aSLEDaFLYаSAUCERaSKATEBOARDaAUTO RICKчWaPICKUP TRUCKaROLLER SKATE"]),
  (128768, ["aALCHEMICALζ FOR QUINTESSENCEwAIRwFIREwEARTHwWAжwAQUAFORTIS! REGIA+-2#VITAE+-2wVINE",
    "GAR%-2&3wSULFURwPHILOSOPHERS SULFURwρ SULFURwMERCURY SUBLIMATE=-2=-3wCINNABARwSALTwNITREwVI",
    "TRIOL%-2wROCK SALT*-2wGOLDwSILОwIRШORE&-2wCROCUSûIRONwREGULUSûIRONwCOPզ OREwIRON-COPզ OREwS",
    "UBLIMATEûCOPզwCROCUSûCOPզ<-2xOPզ ANTIMONIATEwSALTûCOPզ ANTIMONIATExUBLIMATEûSALTûCOPզwОDIGR",
    "ISwTIN OREwLEAD OREwANTIMONY OREwSUBLIMATEûANTIMONYxALTûANTIMONYxUBLIMATEûSALTûANTIMONYwVIN",
    "EGARûANTIMONYwREGULUSûANTIMONY=NY-2%%-2&3&4wALKALI$-2wMARCASITEwSAL-AMMONIACwARSENICwREALGA",
    "R%-2wAURIPIGMгwBISMUTH OREwTARTAR$-2wQUICK LIMEwBORAX#-2$3wALUMwOILwSPIRITwTINCTUREwGUMwWAX",
    "wPOWDERwCALXwTUTTYwCAPUT MORTUUMwSCEPжûJOVEwCADUCEUSwTRIDгwհRвTRIDгwLODESTÍwSOAPwURINEwHORS",
    "E DUNGwЬESwPOT ЬESwBRICKwPOWDERвBRICKwAMALGAMwSTRATUM SUզ STRATUM=ATUM-2xUBLIMAбwPRECIPITAT",
    "EwDISTILLzSOLVE&-2wPURIFYyTREFACбwCRUCIBLE&-2*3*4*5wրMBICwBATHûMARY&VAPOURSwRETORTwHOURwNIG",
    "HTwDAY-NIGHTwMONTHwÌDRAM#OUNCE"]),
  (128896, ["aρ Ý-κ ISOSCELES |βgUP-κ ISOSCELES |βg|-κ ISOSCELES |βgÐ-κ ISOSCELES |βgSÉLY ? äaý ",
    "BոσäaBոσäaç σäaОY ç σäaEXTREMELY ç σäaσä CONTւаρ ? äaROUND TARGETaρ TINY êgSÉLY ? êaÉ σêaý ",
    "σêaBոσêaç σêaОY ç σêaEXTREMELY ç σêaσê CONTւаρ ОY ? ê&ý êaê TARGETaρ TINY уgОY ? уgý ? уaσу",
    " CONTւаρ ОY ? у*ý уaу TARGETaρ TINY LOZENGEgОY ? LOZENGEgý ? LOZENGEaσLOZENGE CONTւаρ ? LOZ",
    "ENGEaTHIN УK кaÉ УK кaý УK кaBոУK кaОY BոУK кfç УK кaEXTREMELY ç УK кaTHIN SALTIREaÉ SALTIR",
    "Eaý SALTIREaBոSALTIREaç SALTIREaОY ç SALTIREaEXTREMELY ç SALTIREaÉ Fл Æaý Fл ÆaBոFл Æaç Fл ",
    "ÆaОY ç Fл ÆaEXTREMELY ç Fл ÆaÉ Г Æaý Г ÆaBոГ Æaç Г ÆaОY ç Г ÆaEXTREMELY ç Г ÆaÉ ì Æaý ì ÆaB",
    "ոì Æaç ì ÆaОY ç ì ÆaÉ Tþբвρ հaý Tþբвρ հaTþբвρ հaý TþբвPINWHEEL հaÉ ñբвρ հaý ñբвρ հañբвρ հaý",
    " ñբвPINWHEEL հaREОSE É ñբвPINWHEEL հaÉ Fлբвρ հaç Fлբвρ հaý Гբвρ հaç Гբвρ հaГբвPINWHEEL հaý ",
    "ìբвρ հaç ìբвρ հaОY ç ìբвρ հaç ìբвPINWHEEL հaÉ TWELVEբвρ հaç TWELVEբвρ հvPINWHEEL հaäDβaNEGA",
    "Tл äDβaäD êaNEGATл äD ê"]),
  (128992, ["aщ ORйE ägYELВägУN ägPURPLE ägBROWN ägRвêgBLUE êgORйE êgYELВêgУN êgPURPLE êgBROWN ê"]),
  (129008, ["aç աS^"]),
  (129024, ["aε[)?β[хaUPæ[)?β[хa|æ[)?β[хaτ[)?β[хaε[)ýβ[хaUPæ[)ýβ[хa|æ[)ýβ[хaτ[)ýβ[хaε[)щβ[хaUPæ[",
    ")щβ[хa|æ[)щβ[хaτ[)щβ[х"]),
  (129040, ["aε[)? EQUILAжAL[хaUPæ[)? EQUILAжAL[хa|æ[)? EQUILAжAL[хaτ[)? EQUILAжAL[хaε[)EQUILAжA",
    "L[хaUPæ[)EQUILAжAL[хa|æ[)EQUILAжAL[хaτ[)EQUILAжAL[хaç ε[)EQUILAжAL[хgUPæ[)EQUILAжAL[хg|æ[)E",
    "QUILAжAL[хgτ[)EQUILAжAL[хgε[)щ EQUILAжAL[хgUPæ[)щ EQUILAжAL[хg|æ[)щ EQUILAжAL[хgτ[)щ EQUILA",
    "жAL[хaεβï[)NARROW чFTaUPæβï[)NARROW чFTa|æβï[)NARROW чFTaτβï[)NARROW чFTaεβï[)ý чFTaUPæβï[)",
    "ý чFTa|æβï[)ý чFTaτβï[)ý чFTaεβï[)BոчFTaUPæβï[)BոчFTa|æβï[)BոчFTaτβï[)BոчFTaεβï[)ç чFTaUPæβ",
    "ï[)ç чFTa|æβï[)ç чFTaτβï[)ç чFTaεβï[)ОY ç чFTaUPæβï[)ОY ç чFTa|æβï[)ОY ç чFTaτβï[)ОY ç чFTa",
    "ε FеER-POST[aUPæ FеER-POST[a|æ FеER-POST[aτ FеER-POST[aε êD[aUPæ êD[a|æ êD[aτ êD[aε COMPRES",
    "SED[aUPæ COMPRESSED[a|æ COMPRESSED[aτ COMPRESSED[aε ç COMPRESSED[aUPæ ç COMPRESSED[a|æ ç CO",
    "MPRESSED[aτ ç COMPRESSED[aε ç[aUPæ ç[a|æ ç[aτ ç["]),
  (129104, ["aε Ч[aUPæ Ч[a|æ Ч[aτ Ч[aС Ч[gEAST Ч[aSOUъ Ч[gWEST Ч[aθ| Ч[aUP Ð Ч["]),
  (129120, ["aWIDEï ε ÉдB[mUPæ ÉдB[m|æ ÉдB[mτ ÉдB[mС ÉдB[sEAST ÉдB[mSOUъ ÉдB[sWEST ÉдB[mεдB[mUPæ",
    "дB[m|æдB[mτдB[mСдB[sEASTдB[mSOUъдB[sWESTдB[mε ýдB[mUPæ ýдB[m|æ ýдB[mτ ýдB[mС ýдB[sEAST ýдB[",
    "mSOUъ ýдB[sWEST ýдB[mε çдB[mUPæ çдB[m|æ çдB[mτ çдB[mС çдB[sEAST çдB[mSOUъ çдB[sWEST çдB[mε ",
    "ОY çдB[mUPæ ОY çдB[m|æ ОY çдB[mτ ОY çдB[mС ОY çдB[sEAST ОY çдB[mSOUъ ОY çдB[sWEST ОY çдB["]),
  (129168, ["aεβ[хaUPæβ[хa|æβ[хaτβ[хaε թ[ WITHINβ[хaUPæ թ[ WITHINβ[хa|æ թ[ WITHINβ[хaτ թ[ WITHIN",
    "β[хaε[)NOTCHвЩaUPæ[)NOTCHвЩa|æ[)NOTCHвЩaτ[)NOTCHвЩaç[ чFT WIDTH ÍyÃ THIRDSyÍ HALF$THIRDaε B",
    "OTTOM-чDвթ[a|æ ղчDвթ[aε TOP чDвթ[a|æ TOP чDвթ[aε Ý-чDвթ[a|æ |-чDвթ[aε |-чDвթ[a|æ Ý-чDвթ[aε ",
    "BACK-TILTвчDOWвթ[a|æ BACK-TILTвчDOWвթ[aε FRONT-TILTвчDOWвթ[a|æ FRONT-TILTвчDOWвթ[aթ[ чFT WI",
    "DTH ÍyÃ THIRDS"]),
  (129200, ["aARROW κ UPæ ձN Сp|æ ձN CURVаSOUTH WEST"]),
  (129280, ["aäD к@EE)ñÄ!ÃÄuaθÌä)ñÄwTþÄxWOÄwØqaÐWARD FACаÁqNOTCHвÁqÁ)ØqNOTCHвÁ)ØaPINCHвFеERSaσծa",
    "BROWN ծaPINCHаHДaZIPզ-MOUTHÔaMÍY-MOUTHÔaFACE)ձRMOMEжaNERDÔaTHINKеÔaFACE)х-BДAGEaROBOTÔaHUGG",
    "еÔaSIGNûձ HORNSaCЪ ME HДaRAISвBACKûHДaÝ-FACаFISTa|-FACаFISTaHДчKEe)INDEX]ξFеERS кEDaI LOVE ",
    "YOU HД^aFACE)COWBOY HATaCLOWNÔaNAUSEATEDÔaROLLаШձ պ LAUGHеaDROOLеÔaLYеÔaFACE PALMaSNEEZеÔaF",
    "ACE)Í EYEBROW RAISEDaGRINNеÔ)հ EYEStÍ щ]Í ? EYEaFACE)FеER COОаCLOSвLIPSaSERIOUSÔ)SYMBOLS CO",
    "ОаMOUTHbMILеÔ)SMILаEYES]HД COОаMOUTHaFACE)ЕMOUTH VOMITеaSHOCKEDÔ)EXPLODахaPREGNANT WOMANaBR",
    "EAST-FEEDеaPALMS UP TOGEձRaSELFIEaPRINCEaMAN IN TUXEDObOձR CHRISTMASaSHRUGaզSШDOаCARTWHEELa",
    "JUGGLеaFENCERaMODERN PгATHLONaWRESTLERSbAж POLOaHДBЪaDIVаMASKaWILTвFLOWERaDRUM)DRUMSTICKSaC",
    "LINKаGLASSESaTUMBLER GLASSaSPOONaGOиNETaRIFLEaFIRST PLACE MEDALaSECOND PLACE MEDALaTHIRD PL",
    "ACE MEDALaBOXаGLOVEaMARTIиARTS UNIFORMaCURLаSTÍaLAкE STICK]BЪaSOFTBЪaFLYаDISCaCROISSANTaAVO",
    "CADOaCUCUMBERaBACONaPքTOaCARROTaBAGUETTE BREADaУN SALADaчLВPANûFOODbTUFFвFLATBREADaEGGaGLAS",
    "SûMILKaPEANUTSaKIWIFRUITaPANCAKESaDUMPLеaFORTUNE COOKIEaTAKEOUT BOXaCHOPSTICKSaBOWL)SPOONaC",
    "UP)STRAWbOCONUTaBROCCOLIaPIEbRETZELaCUTûMEATaSДWICHaCANNвFOODaLEAFY УNaMйObOШCAKEaBAGELaSMI",
    "LеÔ)SMILаEYES]Tþ ծSaYAWNеÔaSMILеÔ)TEARaFACE)PARTY HORN]PARTY HATkUNÛ EYES]WAVY MOUTHaOОHEAT",
    "EDÔaFREEZеÔaNINJAaDISGUISEDÔaFACE HOLDаBACK TEARSfWITH PLEADаEYESaSARIaLAB COATaGOGGLESaHIK",
    "аBOOTaFLAT SHOEaCRABaLIONÔaSCORPIONaTURKEYaUNICORNÔaEAGLEaDUCKaBATaчRKaOWLaFOXÔaBUTжFLYaDEE",
    "RaGORILLAaLIZARDaRHINOCEROSaSHRIMPbQUIDaGIRAFFEÔaZEBRAÔaHEDGEHOGaSAUROPODaT-REXaCRICKETaKйA",
    "ROOaLսAaPEACOCKaHIPPOPքMUSaPARROTaRACCOONaLOBSжaMOSQUITObICROBEaBADGERaSWANaMAMMOTHaDODOaSL",
    "OTHaOTжbRйUTANaSKUNKaFսеOaOYSжaBEAОbISONaSEALaGUIDE DOGaPROBаCANEaEMOJI COMPÍNT RвHAIRqCURL",
    "Y HAIRqBALDqσHAIRaBÍaLEGaFOOTaTOOTHaSUզHEROfVILLւbAFETY VESTaEAR)HEARаAIDaMOTORIZвWHEELCHAI",
    "RbANUиWHEELCHAIRbECHANICиARMlLEGaCHEESE WEDGEbUPCAKEaSALT чKERaBEОAGE BOXaGARLICaONIONaFALA",
    "FELaWAFFLEaBUTжaMATE DRINKaICE CUBEaBUBBLE TEAaTROLLaSTДаզSONaKNEELаզSONaDEAF զSONaFACE)MON",
    "OCLEaADULTaCHILDaOLDER ADULTaBEARDвզSONaզSON)хSCARFhIN STEAMY ROOMhCLIMBеhIN LOTUS POSIбaMA",
    "GEaFAIRYaVAMPIREaMERզSONaELFaGENIEaZOMBIEaBRւaORйE ծaBILLвCAPaSCARFaGLOVESaCOATaSOCKSaRвGIF",
    "T ENVELOPEaFIRECRACKERaJIGSAW PUZZLE PIECEaTEST TUBEaPETRI DISHaDNA α HELIXaCOMPASSaABACUSa",
    "FIRE EXTеUISHERaTOOLBOXaBRICKaMAGNETaLUGGAGEbOб BOTTLEaSPOOLûTHREADaBЪûYARNaSAFETY PINaTEDD",
    "Y BEARaBROOMbASKETaROLLûPAզaBARûSOAPaSPONGEaRECEIPTaNAZAR AMULETbEUTRиCHESS KеoQUգoROOKoBIS",
    "HOPoKNIGHToPAWNaσТвFORTY-Fл DEУSaρ ТвFORTY-Fл DEУSaNEUTRиТвFORTY-Fл DEУSaσCHESS KеëmQUգëmRO",
    "OKëmBISHOPëmKNIGHTëmPAWNëaρ CHESS KеëmQUգëmROOKëmBISHOPëmKNIGHTëmPAWNëaNEUTRиCHESS KеëoQUգë",
    "oROOKëoBISHOPëoKNIGHTëoPAWNëaσТвÍο Tօ-Fл DEУSaρ ТвÍο Tօ-Fл DEУSaNEUTRиТвÍο Tօ-Fл DEУSaσCHES",
    "S öKеtQUգtROOKtBISHOPtKNIGHTtPAWNaρ CHESS öKеtQUգtROOKtBISHOPtKNIGHTtPAWNaNEUTRиCHESS öKеvQ",
    "UգvROOKvBISHOPvKNIGHTvPAWNaσТвÃο TWгY-Fл DEУSaρ ТвÃο TWгY-Fл DEУSaNEUTRиТвÃο TWгY-Fл DEУSaσ",
    "CHESS KаRքTвÃο SÛTY DEУSmQUգ RքTвÃο SÛTY DEУSmROOK RքTвÃο SÛTY DEУSmBISHOP RքTвÃο SÛTY DEУS",
    "mKNIGHT RքTвÃο SÛTY DEУSmPAWN RքTвÃο SÛTY DEУSaρ CHESS KаRքTвÃο SÛTY DEУSmQUգ RքTвÃο SÛTY D",
    "EУSmROOK RքTвÃο SÛTY DEУSmBISHOP RքTвÃο SÛTY DEУSmKNIGHT RքTвÃο SÛTY DEУSmPAWN RքTвÃο SÛTY ",
    "DEУSaNEUTRиCHESS KаRքTвÃο SÛTY DEУSoQUգ RքTвÃο SÛTY DEУSoROOK RքTвÃο SÛTY DEУSoBISHOP RքTвÃ",
    "ο SÛTY DEУSoKNIGHT RքTвÃο SÛTY DEУSoPAWN RքTвÃο SÛTY DEУSaσТвTþο FIFTգ DEУSaρ ТвTþο FIFTգ D",
    "EУSaNEUTRиТвTþο FIFTգ DEУSaσCHESS EQUIHOPզaρ CHESS EQUIHOPզaNEUTRиCHESS EQUIHOPզaσCHESS EQU",
    "IHOPզëaρ CHESS EQUIHOPզëaNEUTRиCHESS EQUIHOPզëaσCHESS KNIGHT-QUգtROOKtBISHOPaρ CHESS KNIGHT",
    "-QUգtROOKtBISHOP"]),
  (129632, ["aXIйQI RвGENERALmMДARINmELEPHANTmHORSEmCHARIOTnANNONmSOLDIERiρ GENERALoMДARINoELEPH",
    "ANToHORSEoCHARIOTpANNONoSOLDIER"]),
  (129648, ["aBЪET SHOESaÍ-PIECE SWIMSUITaBRIEFSaИSaTHONG SДAL"]),
  (129656, ["aDROPûBLOODaADHESл BДAGEaSTETHOSCOPEaX-RAYaCRUTCH"]),
  (129664, ["aYO-YOaKITEaPARACHUTEaBOOMERйaMAGջWДaPINATAaNESTаDOLLS"]),
  (129680, ["aRевЙTaCHAIRaRAZORaAXEaDIYA սPaBANJOaMILITARY HELMETaACCORDIONaАDRUMaCOINbARPгRY SA",
    "WaSCREWDRлRaLADDERaÁaMIRRORaWINDOWaPLUNGERaSEWаNEEDLEaKNOTaBUCKETaMOUSE TRAPaTOOTHBRUSHaхST",
    "ÍaPLACARDaROCKaMIRROR BЪaIDгIFICAб CARDaВBATжYaHAMSA"]),
  (129712, ["aFLYaWORMaBEETLEaCOCKROACHaPOTTвPLANTaWOODaFEAձRaLOTUSaCORALaEMPTY NESTaNEST)EGGS"]),
  (129728, ["aANATOMICиծaLUNGSaPEOPLE HUGGеbREGNANT MANjզSONbERSON)CROWN"]),
  (129744, ["aBLUEBERRIESbELL PEPզaOLлaFLATBREADaTAMրaFONDUEaTEAPOTaPOURаLIQUIDaBEANSaJAR"]),
  (129760, ["aMELTеÔaSALUTеÔaFACE)ЕEYES]HДüMOUTHkPEEKаEYEkРиMOUTHaØTвоÔaBITаLIPbUBBLES"]),
  (129776, ["aHД)INDEX FеER]р кEDa|æ HДaε HДaPALM Ð HДfUP HДaINDEX κ AT ձ VIEWERaծ HДS"]),
  (129792, ["aBь SEXTANT-1o2o12o3o13o23o123o4o14o24o124o34o134o234o1234o5o15o25o125o35o235o1235o",
    "45o145o245o1245o345o1345o2345o12345o6o16o26o126o36o136o236o1236o46o146p246o346o1346o2346o12",
    "346o56o156o256o1256o356o1356o2356o12356o456o1456o2456o12456o3456o13456o23456aôθBь РиôξθTO ô",
    "CгRE=θTO ô|!ÅξθTO ôCгRE=θTO ô|+θTO ôCгREg| Bь РиÅξθTO ÅCгRE= θTO Å|#ôξθTO ÅCгRE= θTO Å|,θTO",
    " ÅCгRE,ξθTO Åξ|,CгRE TO ôξ|,θTO ôξ|,CгRE TO Åξ|,θTO Åξ|,CгRE TO Å|gθBь РиÅCгRE TO Åξ|+θTO Å",
    "ξ|+CгRE TO ôξ|+θTO ôξ|+CгRE TO ô|+ξθTO ôξ|aÅ| Bь РиôξθTO ôCгRE= θTO ô|#ÅξθTO ôCгRE= θTO ô|,",
    "θTO ôCгREgθBь РиÅξθTO ÅCгRE=θTO Å|!ôξθTO ÅCгRE=θTO Å|+θTO ÅCгRE+ξθTO Åξ|+CгRE TO ôξ|+θTO ôξ",
    "|+CгRE TO Åξ|+θTO Åξ|+CгRE TO Å|g| Bь РиÅCгRE TO Åξ|,θTO Åξ|,CгRE TO ôξ|,θTO ôξ|,CгRE TO ô|",
    ",ξθTO ôξ|gД |]ôTRIйФTþ QUARжS BьaÝ]LOWER]| TRIйФTþ QUARжS BьaUPզ]Ý]ôTRIйФTþ QUARжS BьaÝ]UPզ",
    "]| TRIйФTþ QUARжS BьfTRIйФÍ QUARж BьaÅTRIйФÍ QUARж Bьa| TRIйФÍ QUARж BьaôTRIйФÍ QUARж Bьaδ ",
    "Í ìH Bь-2!3!4!5!6!7aλ Í ìH Bь-2$3$4$5$6$7aÝ]ôÍ ìH BьjÅÍ ìH Bьa|]ÅÍ ìH BьkôÍ ìH BьaUPզ]ôÍ ìH",
    " Bьaλ Í ìH Bь-1358aÅÍ QUARж BьgTþ ìHS BьgFл ìHS BьgTþ QUARжS BьgSÛ ìHS Bьa| Í QUARж BьgTþ ì",
    "HS BьgFл ìHS BьgTþ QUARжS BьgSÛ ìHS BьaθÌý чDEa| Ìý чDEaÅÌý чDEaôÌý чDEaINОSE ý чDEaÅÌBь]ôÌ",
    "INОSE ý чDElINОSE ý чDE]ôÌBь"]),
  (129940, ["aθÌINОSE ý чDE]| ÌBьaCHECKER BOARD FILLaINОSE CHECKER BOARD FILLaç λ FILLaÅθTO ô| F",
    "ILLg| TO ôθFILLgД ôTRIйФÌBьaÝ]| TRIйФÌBьaÅθTRIйФý чDEg| TRIйФý чDEaô| TRIйФý чDEgθTRIйФý чD",
    "EaBOX DRAWеS É РиÅCгRE TO ξÝ=E TO ξ|$ξθTO ôCгRE/| TO ôCгRE$ÅCгRE TO ξθTO ôCгRE=E TO ξ| TO ô",
    "CгRE$ξθTO ôCгRE TO ξ|= TO ÅCгRE TO ξ|$ÅCгRE TO ξÝ]ξ| TO ôCгRE=E TO ξ|]ξθTO ôCгRE=E TO ξ| TO",
    " ôCгRE TO ξÝ=E TO ξθTO ôCгRE TO ξ|$ξθTO ÅCгRE TO ξ| TO ôCгRE/| TO ÅCгRE TO ξθTO ôCгRE$уtλ)δ",
    " νaARROWх-чPвPOINжaINОSE CHECKμaθÌRUNNаMANa| ÌRUNNаMANaINОSE τ[)TIP εaε[]UPզ]ôÍ ìH Bьa|æ[]U",
    "Pզ]ôÍ ìH Bьaτ[]| Í ìH BьaUPæ[]| Í ìH BьaθÌFOLDERa| ÌFOLDERaVOIDвУK кa| ЕêD ØaNEGATл Рикsξ| ",
    "TO ôCгREsуaσç SALTIRE)ROUNDвէSaθTHIRD σ| κøaξTHIRD σ| κøa| THIRD σ| κøaNEGATл êD QUESбμaSTI",
    "CK FIGUREm)ARMS RAISEDnLEANаÝv|nWITH DRESSaσUP-κ CHEVRON"]),
  (130032, ["aSEGMгвáqÍqÃrþqñrлqГrÛqìqÞ"]),
  (194560, ["aCJK COMPATIBILITY IDEOмPH-2F800+1+2+3+4+5+6+7+8+9+A+B+C+D+E+F*10+1+2+3+4+5+6+7+8+9",
    "+A+B+C+D+E+F*20+1+2+3+4+5+6+7+8+9+A+B+C+D+E+F*30+1+2+3+4+5+6+7+8+9+A+B+C+D+E+F*40+1+2+3+4+5",
    "+6+7+8+9+A+B+C+D+E+F*50+1+2+3+4+5+6+7+8+9+A+B+C+D+E+F*60+1+2+3+4+5+6+7+8+9+A+B+C+D+E+F*70+1",
    "+2+3+4+5+6+7+8+9+A+B+C+D+E+F*80+1+2+3+4+5+6+7+8+9+A+B+C+D+E+F*90+1+2+3+4+5+6+7+8+9+A+B+C+D+",
    "E+F*A0+1+2+3+4+5+6+7+8+9+A+B+C+D+E+F*B0+1+2+3+4+5+6+7+8+9+A+B+C+D+E+F*C0+1+2+3+4+5+6+7+8+9+",
    "A+B+C+D+E+F*D0+1+2+3+4+5+6+7+8+9+A+B+C+D+E+F*E0+1+2+3+4+5+6+7+8+9+A+B+C+D+E+F*F0+1+2+3+4+5+",
    "6+7+8+9+A+B+C+D+E+F&900+1+2+3+4+5+6+7+8+9+A+B+C+D+E+F*10+1+2+3+4+5+6+7+8+9+A+B+C+D+E+F*20+1",
    "+2+3+4+5+6+7+8+9+A+B+C+D+E+F*30+1+2+3+4+5+6+7+8+9+A+B+C+D+E+F*40+1+2+3+4+5+6+7+8+9+A+B+C+D+",
    "E+F*50+1+2+3+4+5+6+7+8+9+A+B+C+D+E+F*60+1+2+3+4+5+6+7+8+9+A+B+C+D+E+F*70+1+2+3+4+5+6+7+8+9+",
    "A+B+C+D+E+F*80+1+2+3+4+5+6+7+8+9+A+B+C+D+E+F*90+1+2+3+4+5+6+7+8+9+A+B+C+D+E+F*A0+1+2+3+4+5+",
    "6+7+8+9+A+B+C+D+E+F*B0+1+2+3+4+5+6+7+8+9+A+B+C+D+E+F*C0+1+2+3+4+5+6+7+8+9+A+B+C+D+E+F*D0+1+",
    "2+3+4+5+6+7+8+9+A+B+C+D+E+F*E0+1+2+3+4+5+6+7+8+9+A+B+C+D+E+F*F0+1+2+3+4+5+6+7+8+9+A+B+C+D+E",
    "+F&A00+1+2+3+4+5+6+7+8+9+A+B+C+D+E+F*10+1+2+3+4+5+6+7+8+9+A+B+C+D"]),
  (917505, ["aLйUAGE TAG"]),
  (917536, ["aTAG SPACEeEXCսAбμeQUքбμeс^eDOLLAR^eզCг^eAMզSДfPOSTROPHEeθúe| úeASжISKePLUS^eПeHYPH",
    "EN-MINUSeÎeSOLIDUSeákÍkÃlþkñlлkГlÛkìkÞeCOLONeSEMICOLONeó^eաS^eã^eQUESбμeCOMMERCIиATeя>(AzBz",
    "CzDzEzFzGzHzIzJzKzLzMzNzOzPzQzRzSzTzUzVzWzXzYzZfEFT êπeREОSE SOLIDUSfIGHT êπeω ACCгeВоeмVE ",
    "ACCгeя?(AxBxCxDxExFxGxHxIxJxKxLxMxNxOxPxQxRxSxTxUxVxWxXxYxZfEFT CURLYπeδ оe| CURLYπeÏaCANCE",
    "L TAG"]),
  (917760, ["aпб SELECTOR-17u8u9t20u1u2u3u4u5u6u7u8u9t30u1u2u3u4u5u6u7u8u9t40u1u2u3u4u5u6u7u8u9t",
    "50u1u2u3u4u5u6u7u8u9t60u1u2u3u4u5u6u7u8u9t70u1u2u3u4u5u6u7u8u9t80u1u2u3u4u5u6u7u8u9t90u1u2u",
    "3u4u5u6u7u8u9t100v1v2v3v4v5v6v7v8v9u10v1v2v3v4v5v6v7v8v9u20v1v2v3v4v5v6v7v8v9u30v1v2v3v4v5v",
    "6v7v8v9u40v1v2v3v4v5v6v7v8v9u50v1v2v3v4v5v6v7v8v9u60v1v2v3v4v5v6v7v8v9u70v1v2v3v4v5v6v7v8v9",
    "u80v1v2v3v4v5v6v7v8v9u90v1v2v3v4v5v6v7v8v9t200v1v2v3v4v5v6v7v8v9u10v1v2v3v4v5v6v7v8v9u20v1v",
    "2v3v4v5v6v7v8v9u30v1v2v3v4v5v6v7v8v9u40v1v2v3v4v5v6v7v8v9u50v1v2v3v4v5v6"])]

end TextShell.CharName
