/-! The names of the characters of Unicode 14 that start with the letters from A to C. -/

namespace SolidityAtlas.Text.CharacterNames

/-- The names from A to C in increasing order, each without what it has in common with the one in
front of it. The small letters in front of an entry add up to the length of the common start: `a` is
none, `z` is 25.
-/
def namesAToC : List String :=
  ["aABACUSbC CURRENTcCORDIONeUNT OFcKdNOWLEDGEcTIVATE ARABIC FORM SHAPINGjSYMMETRIC SWAPPING",
   "cUTE ACCENThNGLEbDDRESSED TO THE SUBJECTcHESIVE BANDAGEcI SHAKTIcLAM ALIF LENGTHENER",
   "gCAPITAL LETTER ALIFvBAwHEvCHIvDAALIwHAvEvFAvGAwBEvHAvIvJIIMvKAFwHAwPOvLAAMvMIIMvNHAwUNwYAvO",
   "vPEvQAAFvRAvSHAwINNYIIYHEvTUvUvVAvWAWvYAwHEvZALhONSONANT MODIFIERgDIGIT EIGHTmFIVEnOURmNINE",
   "mONEmSEVENnIXmTHREEnWOmZEROgGEMINATE CONSONANT MODIFIERnION MARKgHAMZA",
   "gINITIAL EXCLAMATION MARKoQUESTION MARKgNASALIZATION MARKhUKTAgSMALL LETTER ALIFtBAuHEtCHI",
   "tDAALIuHAtEtFAtGAuBEtHAtItJIIMtKAFuHAuPOtLAAMtMIIMtNHAuUNuYAtOtPEtQAAFtRAtSHAuINNYIIYHEtTUtU",
   "tVAtWAWtYAuHEtZALgVOWEL LENGTHENERcMETOSdISSION TICKETScULTbEGEAN CHECK MARK",
   "hDRY MEASURE FIRST SUBUNIThLIQUID MEASURE FIRST SUBUNIThMEASURE SECOND SUBUNITpTHIRD SUBUNIT",
   "hNUMBER EIGHTt HUNDREDuTHOUSANDtYu THOUSANDoFIFTYt THOUSANDqVEs HUNDREDtTHOUSANDpORTY",
   "t THOUSANDqURs HUNDREDtTHOUSANDoNINEs HUNDREDtTHOUSANDsTYu THOUSANDoONEr HUNDREDsTHOUSAND",
   "oSEVENt HUNDREDuTHOUSANDtTYv THOUSANDpIXr HUNDREDsTHOUSANDrTYt THOUSANDoTENr THOUSANDpHIRTY",
   "u THOUSANDqREEt HUNDREDuTHOUSANDpWENTYu THOUSANDqOr HUNDREDsTHOUSANDhWEIGHT BASE UNIT",
   "oFIRST SUBUNITpOURTH SUBUNIToSECOND SUBUNIToTHIRD SUBUNITiORD SEPARATOR DOTwLINEcRIAL TRAMWAY",
   "bFGHANI SIGNbHOM CONSONANT SIGN MEDIAL LAzdIGATING RAzcRAfDIGIT EIGHTlFIVEmOURlNINElONElSEVEN",
   "mIXlTHREEmWOlZEROfLETTER AnLTERNATE BAwGAwTAmBAnHAmCAnHAmDAnDAoHAnHAmGAnHAmHAmJAnHAmKAnHAmLA",
   "nLAmMAmNAnGAnNAnYAmPAnHAmRAmSAmTAnHAnTAoHAfNUMBER TENnWENTYfSIGN KILLERkRULAIkSECTION",
   "lMALL SECTIONgYMBOL VIfVOWEL SIGN ArArIrMrWqEqIrIqOqUrUbIRPLANEi ARRIVINGjDEPARTURE",
   "bKTIESELSKABbLARM CLOCKcCHEMICAL SYMBOL FOR AIRxLEMBICyKALIzd-2yUMxMALGAMxNTIMONY ORE",
   "xQUA REGIAzh-2zcVITAEzh-2zbFORTISxRSENICxSHESxURIPIGMENTwBATH OF MARYzfVAPOURSxISMUTH ORE",
   "xLACK SULFURxORAXzc-2zd3xRICKwCADUCEUSyLXyPUT MORTUUMxINNABARxOPPER ANTIMONIATEzeORE",
   "xROCUS OF COPPERzn-2zhIRONyUCIBLEzf-2zg3zg4zg5wDAY-NIGHTxISSOLVEzf-2zTILLwEARTHwFIREwGOLDxUM",
   "wHALF DRAMzcOUNCExORSE DUNGyURwIRON OREzf-2zb-COPPER OREwLEAD ORExODESTONEwMARCASITE",
   "xERCURY SUBLIMATEzo-2zp3xONTHwNIGHTyTREwOILwPHILOSOPHERS SULFURxOT ASHESyWDERzdED BRICK",
   "xRECIPITATExURIFYyTREFACTIONwQUICK LIMEzNTESSENCEwREALGARze-2yGULUSze OF ANTIMONYzq-2ziIRON",
   "ze-2zf3zf4yTORTxOCK SALTzg-2wSAL-AMMONIACzTzb OF ANTIMONYzfCOPPER ANTIMONIATExCEPTER OF JOVE",
   "xILVERxOAPxPIRITxTARRED TRIDENTyRATUM SUPER STRATUMzs-2xUBLIMATE OF ANTIMONYzkCOPPER",
   "zkSALT OF ANTIMONYzsCOPPERzfIONyLFURwTARTARzd-2xIN OREzCTURExRIDENTxUTTYwURINEwVERDIGRIS",
   "xINEGARze OF ANTIMONYze-2zf3yTRIOLze-2wWATERyXcEF SYMBOLdMBICdRTcIEN MONSTERcL AROUND-PROFILE",
   "eEQUAL TOcMdOST EQUAL OR EQUAL TOnTOp WITH CIRCUMFLEX ACCENTcTERNATE ONE-WAY LEFT WAY TRAFFIC",
   "iIVE KEY SYMBOLbMALGAMATION OR COPRODUCTcBULANCEcERICAN FOOTBALLcPERSANDdHORA",
   "bNATOLIAN HIEROGLYPH A001y2y3y4y5y6y7y8y9x10zAy1y2y3y4y5y6y7y8y9x20y1y2y3y4y5y6zAy7y8y9x30y1y2",
   "y3y4y5y6y7y8y9zAx40y1zAy2y3y4y5zAy6zAzBy7y8y9x50y1y2y3y4y5y6y7y8y9x60y1y2y3y4y5y6zAzBzCy7y8y9",
   "x70y1y2y3y4y5y6y7y8y9x80y1y2y3y4y5y6y7y8y9x90y1y2y3y4y5y6y7zAy8zAy9w100zAy1zAy2zAy3y4zAzBzCy5",
   "zAzBy6y7zAzBzCy8y9x10zAzBy1y2y3y4y5zAy6y7y8y9x20y1y2y3y4y5zAy6y7y8y9x30y1y2y3y4y5zAy6y7y8y9x40",
   "y1y2y3y4y5y6y7y8y9x50y1y2y3y4y5y6y7y8y9x60y1y2y3y4y5y6y7y8y9x70y1y2y3y4y5y6y7y8y9x80y1y2y3y4y5",
   "y6y7y8y9x90y1y2y3y4y5y6y7y8y9w200y1y2zAzBy3y4y5y6y7zAy8y9zAx10y1y2y3y4y5zAy6zAy7y8y9x20y1y2y3",
   "y4y5y6y7zAy8y9x30y1y2y3y4y5y6y7y8y9x40y1y2y3y4y5y6y7y8y9x50y1y2y3y4y5y6y7y8y9x60y1y2y3y4y5y6y7",
   "zAy8y9x70y1y2y3y4y5y6y7y8y9x80y1y2y3y4y5y6y7y8y9zAx90y1y2y3y4zAy5y6y7y8y9zAw300y1y2y3y4y5y6y7",
   "y8y9zAx10y1y2y3y4y5y6y7y8y9x20y1y2y3y4y5y6y7y8y9zAx30y1y2AzBzCy3y4y5y6zAzBzCy7y8y9x40y1y2y3y4",
   "y5y6y7y8y9x50y1y2y3y4y5y6y7y8y9zAx60y1y2y3y4zAy5y6y7y8zAy9x70y1zAy2y3y4y5y6y7y8y9x80y1zAy2",
   "y3 RA OR RIzAy4y5y6zAy7y8y9x90y1y2y3 EIGHTy4y5y6y7y8y9w400y1y2y3y4y5y6y7y8y9",
   "x10 BEGIN LOGOGRAM MARKzA END LOGOGRAM MARKy1y2y3y4y5y6y7y8y9x20y1y2y3y4y5y6y7y8y9x30y1y2y3y4",
   "y5y6y7y8y9x40y1y2y3y4y5y6y7y8y9x50zAy1y2y3y4y5y6y7zAy8y9x60y1y2y3y4y5y6y7y8y9x70y1y2y3y4y5y6y7",
   "y8y9x80y1y2y3y4y5y6y7y8y9x90y1y2y3y4y5y6y7w501y2y3y4y5y6y7y8y9x10y1y2y3y4y5y6y7y8y9x20y1y2y3y4",
   "y5y6y7y8y9x30fMICAL HEARTcCHORcD WITH DOTcGER SYMBOLdLEf WITH S INSIDElUNDERBARdRY FACE",
   "dSTROM SIGNdUISHED FACEcKHcTdENNA WITH BARSdICLOCKWISE CLOSED CIRCLE ARROWpONTOUR INTEGRAL",
   "oDOWNWARDS AND UPWARDS OPEN CIRCLE ARROWSoGAPPED CIRCLE ARROWoINTEGRATIONoOPEN CIRCLE ARROW",
   "oTOP SEMICIRCLE ARROWpRIANGLE-HEADED BOTTOM U-SHAPED ARROWzfLEFT U-SHAPED ARROW",
   "zfOPEN CIRCLE ARROWzfRIGHT U-SHAPED ARROWzfTOP U-SHAPED ARROWbPCcL FUNCTIONAL SYMBOL ALPHA",
   "zc UNDERBARwBACKSLASH BARwCIRCLE BACKSLASHzeDIAERESISzeJOTzeSTARzgILEzeUNDERBARxOMMA BAR",
   "wDEL DIAERESISzbSTILEzbTILDEzTA STILEzdUNDERBARxIAMOND UNDERBARxOWN CARET TILDEzcSHOE STILE",
   "zcTACK JOTzhUNDERBARzbWARDS VANEwEPSILON UNDERBARwGREATER-THAN DIAERESISwI-BEAMxOTAzb UNDERBAR",
   "wJOT DIAERESISzbUNDERBARwLEFT SHOE STILEzbWARDS VANEwOMEGAzc UNDERBARwQUADzb BACKSLASHzcCIRCLE",
   "zdOLONzcDELzfTAzdIAMONDzeVIDEzdOWN CARETzgWARDS ARROWzcEQUALzcGREATER-THANzcJOT",
   "zcLEFTWARDS ARROWzeSS-THANzcNOT EQUALzcQUESTIONzcRIGHTWARDS ARROWzcSLASHzcUP CARET",
   "zeWARDS ARROWyOTE QUADzdUNDERBARwRHOxIGHTWARDS VANEwSEMICOLON UNDERBARxLASH BARxQUISH QUAD",
   "xTAR DIAERESISyILE TILDEwTILDE DIAERESISwUP CARET TILDEzSHOE JOTzTACK DIAERESISzfJOTzfOVERBAR",
   "yWARDS VANEwZILDEcOLLONdSTROPHEcPLICATION PROGRAM COMMANDdROACHES THE LIMIT",
   "fXIMATELY BUT NOT ACTUALLY EQUAL TOoEQUAL OR EQUAL TOuTOw OR THE IMAGE OFbQUARIUS",
   "bRABIC BASELINE ROUND DOThCOMMAiURLY DAMMAsTANnFATHAsTANnKASRAsTANhDAMMAm ISOLATED FORM",
   "nMEDIAL FORMnWITH DOTmTANp ISOLATED FORMjTE SEPARATORiECIMAL SEPARATORiISPUTED END OF AYAH",
   "iOUBLE RIGHT ARROWHEAD ABOVEzk WITH DOTnD MADDAhEMPTY CENTRE HIGH STOPuLOW STOPiND OF AYAH",
   "oTEXT MARKhFATHAm ISOLATED FORMnMEDIAL FORMnWITH DOT ABOVEsRINGsTWO DOTSmTANp ISOLATED FORM",
   "iIVE POINTED STARiOOTNOTE MARKERiULL STOPhHALF MADDA OVER MADDAjMZA ABOVEnBELOWhINVERTED DAMMA",
   "hKASRAm ISOLATED FORMnMEDIAL FORMnWITH DOT BELOWmTANp ISOLATED FORMhLARGE CIRCLE BELOW",
   "nROUND DOT ABOVExBELOWxINSIDE CIRCLE BELOWiEFT ARROWHEAD ABOVEwBELOWjTTER AEpFRICAN FEHwNOON",
   "wQAFz WITH THREE DOTS ABOVEpINr FINAL FORMsINITIAL FORMtSOLATED FORMsMEDIAL FORM",
   "sWITH THREE DOTS ABOVEzjBELOWzjPOINTING DOWNWARDS ABOVEyWO DOTS ABOVEzhVERTICALLY ABOVEpLEF",
   "s FINAL FORMtISOLATED FORMtMAKSURAzb FINAL FORMzcISOLATED FORMtWASLAy FINAL FORMzISOLATED FORM",
   "uITH ATTACHED BOTTOM RIGHT KASRAzzb AND DOT ABOVEzzgLEFT RINGziFATHAziKASRAziLEFT HAMZA",
   "znROUND DOTziRIGHT HAMZAzoROUND DOTzjOUND DOT ABOVEzsBELOWziTOP RIGHT FATHAzx AND DOT ABOVE",
   "zzdLEFT RINGyDOT ABOVEyEXTENDED ARABIC-INDIC DIGIT THREE ABOVEzzdWO ABOVEyHAMZA ABOVE",
   "zk FINAL FORMzlISOLATED FORMzfBELOWzk FINAL FORMzlISOLATED FORMyLEFT MIDDLE STROKEyMADDA ABOVE",
   "zk FINAL FORMzlISOLATED FORMyRIGHT MIDDLE STROKEzs AND DOT ABOVEzxLEFT RINGyWAVY HAMZA ABOVE",
   "zkBELOWoBEEHs FINAL FORMtINITIAL FORMuSOLATED FORMtMEDIAL FORMqHr FINAL FORMsINITIAL FORM",
   "tSOLATED FORMsMEDIAL FORMsWITH DOT BELOW AND THREE DOTS ABOVExHAMZA ABOVE",
   "xINVERTED SMALL V BELOWxSMALL MEEM ABOVEzeVzf BELOWxTHREE DOTS HORIZONTALLY BELOW",
   "zjPOINTING UPWARDS BELOWzzg AND TWO DOTS ABOVEyWO DOTS BELOW AND DOT ABOVErEHt FINAL FORM",
   "uINITIAL FORMvSOLATED FORMuMEDIAL FORMoDADr FINAL FORMsINITIAL FORMtSOLATED FORMsMEDIAL FORM",
   "sWITH DOT BELOWqHALt FINAL FORMuISOLATED FORMqLr FINAL FORMsISOLATED FORMsWITH DOT BELOW",
   "zh AND SMALL TAHxFOUR DOTS ABOVExINVERTED SMALL V BELOWzhVxRINGxTHREE DOTS ABOVE DOWNWARDS",
   "zjBELOWyWO DOTS VERTICALLY BELOW AND SMALL TAHpDAHALu FINAL FORMvISOLATED FORMrLs FINAL FORM",
   "tISOLATED FORMpOTLESS BEHwFEHwQAFpULr FINAL FORMsISOLATED FORMpYEHs FINAL FORMtINITIAL FORM",
   "uSOLATED FORMtMEDIAL FORMoEp FINAL FORMqINITIAL FORMrSOLATED FORMqMEDIAL FORMoFARSI YEH",
   "x FINAL FORMyINITIAL FORMzSOLATED FORMyMEDIAL FORMyWITH EXTENDED ARABIC-INDIC DIGIT FOUR BELOW",
   "zzhTHREE ABOVEzziWO ABOVEzeINVERTED VzeTHREE DOTS ABOVEzfWO DOTS ABOVEpEHr FINAL FORM",
   "sINITIAL FORMtSOLATED FORMsMEDIAL FORMsWITH DOT BELOWzh AND THREE DOTS ABOVEzcMOVED BELOW",
   "xTHREE DOTS BELOWzjPOINTING UPWARDS BELOWyWO DOTS BELOWoGAFr FINAL FORMsINITIAL FORM",
   "tSOLATED FORMsMEDIAL FORMsWITH INVERTED STROKExRINGxTHREE DOTS ABOVEyWO DOTS BELOWpHAIN",
   "t FINAL FORMuINITIAL FORMvSOLATED FORMuMEDIAL FORMuWITH DOT BELOWzTHREE DOTS ABOVEpRAFpUEH",
   "s FINAL FORMtINITIAL FORMuSOLATED FORMtMEDIAL FORMoHAHr FINAL FORMsINITIAL FORMtSOLATED FORM",
   "sMEDIAL FORMsWITH EXTENDED ARABIC-INDIC DIGIT FOUR BELOWxHAMZA ABOVExINVERTED SMALL V BELOW",
   "xSMALL ARABIC LETTER TAH ABOVEzxND TWO DOTSzwBELOWxTHREE DOTS ABOVEzjPOINTING UPWARDS BELOW",
   "yWO DOTS ABOVEzhVERTICAL ABOVEqMZAt ISOLATED FORMpEHr DOACHASHMEEze FINAL FORMzfINITIAL FORM",
   "zgSOLATED FORMzfMEDIAL FORMsFINAL FORMsGOALw FINAL FORMxINITIAL FORMySOLATED FORMxMEDIAL FORM",
   "xWITH HAMZA ABOVEsINITIAL FORMtSOLATED FORMsMEDIAL FORMsWITH INVERTED VxYEH ABOVEzh FINAL FORM",
   "ziISOLATED FORMpIGH HAMZAy ALEFzWAWzYEHoJEEMs FINAL FORMtINITIAL FORMuSOLATED FORMtMEDIAL FORM",
   "tWITH THREE DOTS ABOVEzkBELOWzWO DOTS ABOVEqHr FINAL FORMsISOLATED FORMoKAFr FINAL FORM",
   "sINITIAL FORMtSOLATED FORMsMEDIAL FORMsWITH DOT ABOVEzcBELOWxRINGxTHREE DOTS BELOW",
   "yWO DOTS ABOVEqSHMIRI YEHpEHEHt FINAL FORMuINITIAL FORMvSOLATED FORMuMEDIAL FORM",
   "uWITH DOT ABOVEzSMALL VzTHREE DOTS ABOVEzlBELOWzlPOINTING UPWARDS BELOWzbWO DOTS ABOVE",
   "zjVERTICALLY BELOWpHAHs FINAL FORMtINITIAL FORMuSOLATED FORMtMEDIAL FORMpIRGHIZ OEy FINAL FORM",
   "zISOLATED FORMwYUy FINAL FORMzISOLATED FORMoLAMr FINAL FORMsINITIAL FORMtSOLATED FORM",
   "sMEDIAL FORMsWITH BARxDOT ABOVEzUBLE BARxSMALL ARABIC LETTER TAH ABOVEzeVxTHREE DOTS ABOVE",
   "zjBELOWpOW ALEFoMARKpEEMs FINAL FORMtINITIAL FORMuSOLATED FORMtMEDIAL FORMtWITH DOT ABOVE",
   "zdBELOWyTHREE DOTS ABOVEoNGq FINAL FORMrINITIAL FORMsSOLATED FORMrMEDIAL FORMqOEHt FINAL FORM",
   "uINITIAL FORMvSOLATED FORMuMEDIAL FORMpOONs FINAL FORMtGHUNNAz FINAL FORMzbISOLATED FORM",
   "tINITIAL FORMuSOLATED FORMtMEDIAL FORMtWITH DOT BELOWyINVERTED SMALL VyRINGySMALL TAHzfV",
   "yTHREE DOTS ABOVEzWO DOTS BELOWpYEHs FINAL FORMtINITIAL FORMuSOLATED FORMtMEDIAL FORMoOE",
   "q FINAL FORMrISOLATED FORMoPEHr FINAL FORMsINITIAL FORMtSOLATED FORMsMEDIAL FORM",
   "sWITH SMALL MEEM ABOVEzeVrEHt FINAL FORMuINITIAL FORMvSOLATED FORMuMEDIAL FORMoQAFr FINAL FORM",
   "sINITIAL FORMtSOLATED FORMsMEDIAL FORMsWITH DOT ABOVEzcBELOWzh AND NO DOTS ABOVE",
   "xTHREE DOTS ABOVEoREHr FINAL FORMsISOLATED FORMsWITH DOT BELOWzh AND DOT ABOVExFOUR DOTS ABOVE",
   "xHAMZA ABOVExINVERTED VxLOOPxRINGxSMALL ARABIC LETTER TAH AND TWO DOTSzeNOON ABOVEzeVzf BELOW",
   "yTROKExTWO DOTS ABOVEzhVERTICALLY ABOVEpNOONt FINAL FORMuINITIAL FORMvSOLATED FORMuMEDIAL FORM",
   "pOHINGYA YEHpREHs FINAL FORMtISOLATED FORMoSADr FINAL FORMsINITIAL FORMtSOLATED FORM",
   "sMEDIAL FORMsWITH THREE DOTS ABOVEzjBELOWyWO DOTS BELOWpEENs FINAL FORMtINITIAL FORM",
   "uSOLATED FORMtMEDIAL FORMtWITH DOT BELOW AND DOT ABOVEyEXTENDED ARABIC-INDIC DIGIT FOUR ABOVE",
   "yFOUR DOTS ABOVEyINVERTED VySMALL ARABIC LETTER TAH AND TWO DOTSyTHREE DOTS BELOW",
   "zp AND THREE DOTS ABOVEzWO DOTS VERTICALLY ABOVEpHEENt FINAL FORMuINITIAL FORMvSOLATED FORM",
   "uMEDIAL FORMuWITH DOT BELOWpTRAIGHT WAWpUPERSCRIPT ALEFpWASH KAFoTAHr FINAL FORMsINITIAL FORM",
   "tSOLATED FORMsMEDIAL FORMsWITH DOT BELOWxTHREE DOTS ABOVEzjBELOWyWO DOTS ABOVEpCHEH",
   "t FINAL FORMuINITIAL FORMvSOLATED FORMuMEDIAL FORMuWITH DOT ABOVEzSMALL VtEHv FINAL FORM",
   "wINITIAL FORMxSOLATED FORMwMEDIAL FORMpEHr FINAL FORMsINITIAL FORMtSOLATED FORMsMARBUTA",
   "z FINAL FORMzbGOALzbISOLATED FORMtEDIAL FORMsWITH RINGxSMALL TEH ABOVEzeV",
   "xTHREE DOTS ABOVE DOWNWARDSrEHt FINAL FORMuINITIAL FORMvSOLATED FORMuMEDIAL FORMpHAL",
   "s FINAL FORMtISOLATED FORMqEHs FINAL FORMtINITIAL FORMuSOLATED FORMtMEDIAL FORMqIN YEHpTEH",
   "s FINAL FORMtINITIAL FORMuSOLATED FORMtMEDIAL FORMtWITH SMALL VsEHu FINAL FORMvINITIAL FORM",
   "wSOLATED FORMvMEDIAL FORMoUp FINAL FORMqISOLATED FORMqWITH HAMZA ABOVEzh ISOLATED FORM",
   "pIGHUR KAZAKH KIRGHIZ ALEF MAKSURA INITIAL FORMzyMEDIAL FORMoVEq FINAL FORMrISOLATED FORMqH",
   "r FINAL FORMsINITIAL FORMtSOLATED FORMsMEDIAL FORMoWAWr FINAL FORMsISOLATED FORM",
   "sWITH DOT ABOVEzcWITHINxEXTENDED ARABIC-INDIC DIGIT THREE ABOVEzzcWO ABOVExHAMZA ABOVE",
   "zj FINAL FORMzkISOLATED FORMxRINGxTWO DOTS ABOVEoYEHr BARREEy FINAL FORMzISOLATED FORM",
   "zWITH EXTENDED ARABIC-INDIC DIGIT THREE ABOVEzzjWO ABOVEzfHAMZA ABOVEzq FINAL FORM",
   "zrISOLATED FORMsFINAL FORMsINITIAL FORMtSOLATED FORMsMEDIAL FORMsWITH HAMZA ABOVEzj FINAL FORM",
   "zkINITIAL FORMzlSOLATED FORMzkMEDIAL FORMxSMALL VxTAILyHREE DOTS BELOW",
   "yWO DOTS BELOW AND DOT ABOVEzrHAMZA ABOVEzrSMALL NOON ABOVEpUq FINAL FORMrISOLATED FORMoZAH",
   "r FINAL FORMsINITIAL FORMtSOLATED FORMsMEDIAL FORMqINs FINAL FORMtISOLATED FORM",
   "tWITH INVERTED V ABOVEiIGATURE AIN WITH ALEF MAKSURA FINAL FORMznISOLATED FORM",
   "zJEEM INITIAL FORMzgSOLATED FORMzfWITH MEEM FINAL FORMzpINITIAL FORMzMEEM INITIAL FORM",
   "zgSOLATED FORMzfWITH ALEF MAKSURA FINAL FORMzkMEEM FINAL FORMzpINITIAL FORMzkYEH FINAL FORM",
   "zYEH FINAL FORMzeISOLATED FORMrKBAR ISOLATED FORMrLAYHAA AS-SALAAMvE ISOLATED FORMvI AS-SALAAM",
   "zgTU WAS-SALAAMwM AS-SALAAMxAA AS-SALAAMsEF MAKSURA WITH SUPERSCRIPT ALEF FINAL FORM",
   "zzbISOLATED FORMvWITH FATHATAN FINAL FORMzkISOLATED FORMsLAH ISOLATED FORMrZZA WA JALL",
   "qBEH WITH ALEF MAKSURA FINAL FORMznISOLATED FORMzHAH INITIAL FORMzfSOLATED FORM",
   "zeWITH YEH FINAL FORMzbEH INITIAL FORMzeMEDIAL FORMzJEEM INITIAL FORMzgSOLATED FORM",
   "zKHAH INITIAL FORMzgSOLATED FORMzfWITH YEH FINAL FORMzMEEM FINAL FORMzfINITIAL FORM",
   "zgSOLATED FORMzfMEDIAL FORMzNOON FINAL FORMzREH FINAL FORMzYEH FINAL FORMzeISOLATED FORM",
   "zZAIN FINAL FORMrISMILLAH AR-RAHMAN AR-RAHEEMqDAD WITH ALEF MAKSURA FINAL FORMznISOLATED FORM",
   "zHAH INITIAL FORMzfSOLATED FORMzeWITH ALEF MAKSURA FINAL FORMzjYEH FINAL FORM",
   "zJEEM INITIAL FORMzgSOLATED FORMzKHAH INITIAL FORMzgSOLATED FORMzfWITH MEEM FINAL FORM",
   "zpINITIAL FORMzMEEM INITIAL FORMzgSOLATED FORMzREH FINAL FORMzeISOLATED FORMzYEH FINAL FORM",
   "zeISOLATED FORMqFEH WITH ALEF MAKSURA FINAL FORMznISOLATED FORMzHAH INITIAL FORMzfSOLATED FORM",
   "zJEEM INITIAL FORMzgSOLATED FORMzKHAH INITIAL FORMzgSOLATED FORMzfWITH MEEM FINAL FORM",
   "zpINITIAL FORMzMEEM INITIAL FORMzgSOLATED FORMzfWITH YEH FINAL FORMzYEH FINAL FORM",
   "zeISOLATED FORMqGHAIN WITH ALEF MAKSURA FINAL FORMzpISOLATED FORMzcJEEM INITIAL FORM",
   "ziSOLATED FORMzcMEEM INITIAL FORMziSOLATED FORMzhWITH ALEF MAKSURA FINAL FORMzmMEEM FINAL FORM",
   "zmYEH FINAL FORMzcYEH FINAL FORMzgISOLATED FORMqHAH WITH ALEF MAKSURA FINAL FORM",
   "znISOLATED FORMzJEEM INITIAL FORMzgSOLATED FORMzfWITH YEH FINAL FORMzMEEM INITIAL FORM",
   "zgSOLATED FORMzfWITH ALEF MAKSURA FINAL FORMzkYEH FINAL FORMzYEH FINAL FORMzeISOLATED FORM",
   "rEH WITH ALEF MAKSURA ISOLATED FORMzJEEM INITIAL FORMzgSOLATED FORMzMEEM INITIAL FORM",
   "zgSOLATED FORMzfWITH JEEM INITIAL FORMzkMEEM INITIAL FORMzSUPERSCRIPT ALEF INITIAL FORM",
   "zYEH ISOLATED FORMqJALLAJALALOUHOUrEEM WITH ALEF MAKSURA FINAL FORMzoISOLATED FORM",
   "zbHAH INITIAL FORMzgSOLATED FORMzfWITH ALEF MAKSURA FINAL FORMzkYEH FINAL FORM",
   "zbMEEM INITIAL FORMzhSOLATED FORMzgWITH ALEF MAKSURA FINAL FORMzlHAH FINAL FORMzpINITIAL FORM",
   "zlYEH FINAL FORMzbYEH FINAL FORMzfISOLATED FORMqKAF WITH ALEF FINAL FORMzfISOLATED FORM",
   "zfMAKSURA FINAL FORMznISOLATED FORMzHAH INITIAL FORMzfSOLATED FORMzJEEM INITIAL FORM",
   "zgSOLATED FORMzKHAH INITIAL FORMzgSOLATED FORMzLAM FINAL FORMzeINITIAL FORMzfSOLATED FORM",
   "zeMEDIAL FORMzMEEM FINAL FORMzfINITIAL FORMzgSOLATED FORMzfMEDIAL FORMzfWITH MEEM FINAL FORM",
   "zpINITIAL FORMzkYEH FINAL FORMzYEH FINAL FORMzeISOLATED FORMrHAH WITH ALEF MAKSURA FINAL FORM",
   "zoISOLATED FORMzbHAH ISOLATED FORMzbJEEM INITIAL FORMzhSOLATED FORMzbMEEM INITIAL FORM",
   "zhSOLATED FORMzbYEH FINAL FORMzfISOLATED FORMqLAM WITH ALEF FINAL FORMzfISOLATED FORM",
   "zfMAKSURA FINAL FORMznISOLATED FORMzfWITH HAMZA ABOVE FINAL FORMzwISOLATED FORM",
   "zqBELOW FINAL FORMzwISOLATED FORMzkMADDA ABOVE FINAL FORMzwISOLATED FORMzHAH INITIAL FORM",
   "zfSOLATED FORMzeWITH ALEF MAKSURA FINAL FORMzjMEEM FINAL FORMzoINITIAL FORMzjYEH FINAL FORM",
   "zbEH INITIAL FORMzJEEM INITIAL FORMzgSOLATED FORMzfWITH JEEM FINAL FORMzpINITIAL FORM",
   "zkMEEM FINAL FORMzpINITIAL FORMzkYEH FINAL FORMzKHAH INITIAL FORMzgSOLATED FORM",
   "zfWITH MEEM FINAL FORMzpINITIAL FORMzMEEM FINAL FORMzfINITIAL FORMzgSOLATED FORMzfMEDIAL FORM",
   "zfWITH HAH FINAL FORMzoINITIAL FORMzkYEH FINAL FORMzYEH FINAL FORMzeISOLATED FORM",
   "qMEEM WITH ALEF FINAL FORMzgMAKSURA ISOLATED FORMzbHAH INITIAL FORMzgSOLATED FORM",
   "zfWITH JEEM INITIAL FORMzkMEEM INITIAL FORMzkYEH FINAL FORMzbJEEM INITIAL FORMzhSOLATED FORM",
   "zgWITH HAH INITIAL FORMzlKHAH INITIAL FORMzlMEEM INITIAL FORMzlYEH FINAL FORM",
   "zbKHAH INITIAL FORMzhSOLATED FORMzgWITH JEEM INITIAL FORMzlMEEM INITIAL FORMzlYEH FINAL FORM",
   "zbMEEM FINAL FORMzgINITIAL FORMzhSOLATED FORMzgWITH YEH FINAL FORMzbYEH ISOLATED FORM",
   "rOHAMMAD ISOLATED FORMqNOON WITH ALEF MAKSURA FINAL FORMzoISOLATED FORMzbHAH INITIAL FORM",
   "zgSOLATED FORMzfWITH ALEF MAKSURA FINAL FORMzkMEEM INITIAL FORMzkYEH FINAL FORM",
   "zcEH INITIAL FORMzfMEDIAL FORMzbJEEM INITIAL FORMzhSOLATED FORMzgWITH ALEF MAKSURA FINAL FORM",
   "zlHAH FINAL FORMzpINITIAL FORMzlMEEM FINAL FORMzqINITIAL FORMzlYEH FINAL FORM",
   "zbKHAH INITIAL FORMzhSOLATED FORMzbMEEM FINAL FORMzgINITIAL FORMzhSOLATED FORMzgMEDIAL FORM",
   "zgWITH ALEF MAKSURA FINAL FORMzlYEH FINAL FORMzbNOON FINAL FORMzbREH FINAL FORM",
   "zbYEH FINAL FORMzfISOLATED FORMzbZAIN FINAL FORMqQAF WITH ALEF MAKSURA FINAL FORM",
   "znISOLATED FORMzHAH INITIAL FORMzfSOLATED FORMzMEEM INITIAL FORMzgSOLATED FORM",
   "zfWITH HAH FINAL FORMzoINITIAL FORMzkMEEM FINAL FORMzkYEH FINAL FORMzYEH FINAL FORM",
   "zeISOLATED FORMsLA USED AS KORANIC STOP SIGN ISOLATED FORMrUDDISA SIRRAHqRADI ALLAAHU ANHzhAA",
   "zhUMzjAAziNNAsHIMAHU ALLAAHyM ALLAAHsSOUL ISOLATED FORMrEH WITH SUPERSCRIPT ALEF ISOLATED FORM",
   "qSAD WITH ALEF MAKSURA FINAL FORMznISOLATED FORMzHAH INITIAL FORMzfSOLATED FORM",
   "zeWITH HAH FINAL FORMznINITIAL FORMzjYEH FINAL FORMzKHAH INITIAL FORMzMEEM INITIAL FORM",
   "zgSOLATED FORMzfWITH MEEM FINAL FORMzpINITIAL FORMzREH FINAL FORMzeISOLATED FORM",
   "zYEH FINAL FORMzeISOLATED FORMsLAAMUHU ALAYNAAuM ISOLATED FORMtLA ISOLATED FORM",
   "wUSED AS KORANIC STOP SIGN ISOLATED FORMvLLAAHU ALAYHI WA-AALIHyHOU ALAYHE WASALLAM",
   "zU ALAYHI WAAALIHEE WA-SALLAMrEEN WITH ALEF MAKSURA FINAL FORMzoISOLATED FORM",
   "zbHAH INITIAL FORMzgSOLATED FORMzfMEDIAL FORMzfWITH JEEM INITIAL FORMzcEH INITIAL FORM",
   "zfMEDIAL FORMzbJEEM INITIAL FORMzhSOLATED FORMzgMEDIAL FORMzgWITH ALEF MAKSURA FINAL FORM",
   "zlHAH INITIAL FORMzbKHAH INITIAL FORMzhSOLATED FORMzgMEDIAL FORMzgWITH ALEF MAKSURA FINAL FORM",
   "zlYEH FINAL FORMzbMEEM INITIAL FORMzhSOLATED FORMzgMEDIAL FORMzgWITH HAH FINAL FORM",
   "zpINITIAL FORMzlJEEM INITIAL FORMzlMEEM FINAL FORMzqINITIAL FORMzbREH FINAL FORM",
   "zfISOLATED FORMzbYEH FINAL FORMzfISOLATED FORMrHADDA WITH DAMMA ISOLATED FORMzjMEDIAL FORM",
   "ziTAN ISOLATED FORMzdFATHA ISOLATED FORMzjMEDIAL FORMzdKASRA ISOLATED FORMzjMEDIAL FORM",
   "ziTAN ISOLATED FORMzdSUPERSCRIPT ALEF ISOLATED FORMsEEN WITH ALEF MAKSURA FINAL FORM",
   "zpISOLATED FORMzcHAH FINAL FORMzgINITIAL FORMzhSOLATED FORMzgMEDIAL FORMzgWITH MEEM FINAL FORM",
   "zqINITIAL FORMzlYEH FINAL FORMzdEH INITIAL FORMzgMEDIAL FORMzcJEEM FINAL FORMzhINITIAL FORM",
   "ziSOLATED FORMzhMEDIAL FORMzhWITH YEH FINAL FORMzcKHAH FINAL FORMzhINITIAL FORMziSOLATED FORM",
   "zhMEDIAL FORMzcMEEM FINAL FORMzhINITIAL FORMziSOLATED FORMzhMEDIAL FORMzhWITH KHAH FINAL FORM",
   "zrINITIAL FORMzmMEEM FINAL FORMzrINITIAL FORMzcREH FINAL FORMzgISOLATED FORMzcYEH FINAL FORM",
   "zgISOLATED FORMrUBHAANAHU WA TAAALAAqTABAARAKA WA-TAAALAAsH WITH ALEF MAKSURA FINAL FORM",
   "znISOLATED FORMzHAH INITIAL FORMzfSOLATED FORMzMEEM INITIAL FORMzgSOLATED FORMzfMEDIAL FORM",
   "zfWITH HAH FINAL FORMzoINITIAL FORMzkMEEM INITIAL FORMzkYEH FINAL FORMzYEH FINAL FORM",
   "zeISOLATED FORMrEH WITH ALEF MAKSURA FINAL FORMznISOLATED FORMzHAH INITIAL FORMzfSOLATED FORM",
   "zeWITH JEEM FINAL FORMzoINITIAL FORMzjMEEM INITIAL FORMzbEH INITIAL FORMzeMEDIAL FORM",
   "zJEEM INITIAL FORMzgSOLATED FORMzfWITH ALEF MAKSURA FINAL FORMzkMEEM INITIAL FORM",
   "zkYEH FINAL FORMzKHAH INITIAL FORMzgSOLATED FORMzfWITH ALEF MAKSURA FINAL FORM",
   "zkMEEM INITIAL FORMzkYEH FINAL FORMzMEEM FINAL FORMzfINITIAL FORMzgSOLATED FORMzfMEDIAL FORM",
   "zfWITH ALEF MAKSURA FINAL FORMzkHAH INITIAL FORMzkJEEM INITIAL FORMzkKHAH INITIAL FORM",
   "zkYEH FINAL FORMzNOON FINAL FORMzREH FINAL FORMzYEH FINAL FORMzeISOLATED FORMzZAIN FINAL FORM",
   "rHAL WITH SUPERSCRIPT ALEF ISOLATED FORMsEH WITH ALEF MAKSURA FINAL FORMzoISOLATED FORM",
   "zbHEH MEDIAL FORMzbJEEM ISOLATED FORMzbMEEM FINAL FORMzgINITIAL FORMzhSOLATED FORM",
   "zgMEDIAL FORMzbNOON FINAL FORMzbREH FINAL FORMzbYEH FINAL FORMzfISOLATED FORMzbZAIN FINAL FORM",
   "qUIGHUR KIRGHIZ YEH WITH HAMZA ABOVE WITH ALEF MAKSURA FINAL FORMzzuINITIAL FORM",
   "zzvSOLATED FORMqWASALLAM ISOLATED FORMqYEH WITH ALEF MAKSURA FINAL FORMznISOLATED FORM",
   "zHAH INITIAL FORMzfSOLATED FORMzeWITH YEH FINAL FORMzcMZA ABOVE WITH AE FINAL FORM",
   "zuISOLATED FORMzsLEF FINAL FORMzwISOLATED FORMzwMAKSURA FINAL FORMzzfISOLATED FORM",
   "zrE FINAL FORMztINITIAL FORMzuSOLATED FORMzrHAH INITIAL FORMzwSOLATED FORMzsEH INITIAL FORM",
   "zvMEDIAL FORMzrJEEM INITIAL FORMzxSOLATED FORMzrKHAH INITIAL FORMzrMEEM FINAL FORM",
   "zwINITIAL FORMzxSOLATED FORMzwMEDIAL FORMzrNOON FINAL FORMzrOE FINAL FORMzuISOLATED FORM",
   "zrREH FINAL FORMzrU FINAL FORMztISOLATED FORMzrWAW FINAL FORMzvISOLATED FORMzrYEH FINAL FORM",
   "zvISOLATED FORMzsU FINAL FORMzuISOLATED FORMzrZAIN FINAL FORMzbEH INITIAL FORMzeMEDIAL FORM",
   "zJEEM INITIAL FORMzgSOLATED FORMzfWITH YEH FINAL FORMzKHAH INITIAL FORMzgSOLATED FORM",
   "zMEEM FINAL FORMzfINITIAL FORMzgSOLATED FORMzfMEDIAL FORMzfWITH MEEM FINAL FORMzpINITIAL FORM",
   "zkYEH FINAL FORMzNOON FINAL FORMzREH FINAL FORMzYEH FINAL FORMzeISOLATED FORMzZAIN FINAL FORM",
   "qZAH WITH MEEM INITIAL FORMzgSOLATED FORMzfMEDIAL FORMhMADDA WAAJIBmH ABOVEjRK NOON GHUNNA",
   "mSIDEWAYS NOON GHUNNAjTHEMATICAL AINvLEFuBEHuDADwLvOTLESS BEHzdFEHzdNOONzdQAFwUBLE-STRUCK AIN",
   "zjBEHzjDADzlLzjFEHzjGHAINzjHAHzjJEEMzjKHAHzjLAMzjMEEMzjNOONzjQAFzjREHzjSADzkEENzkHEENzjTAHzkEH",
   "zkHALzlEHzjWAWzjYEHzjZAHzlINuFEHuGHAINuHAHuINITIAL AINzdBEHzdDADzdFEHzdGHAINzdHAHzeEHzdJEEM",
   "zdKAFzeHAHzdLAMzdMEEMzdNOONzdQAFzdSADzeEENzeHEENzdTEHzeHEHzdYEHuJEEMuKAFvHAHuLAMvOOPED AIN",
   "zdLEFzcBEHzcDADzeLzcFEHzcGHAINzcHAHzdEHzcJEEMzcKHAHzcLAMzcMEEMzcNOONzcQAFzcREHzcSADzdEENzdHEEN",
   "zcTAHzdEHzdHALzeEHzcWAWzcYEHzcZAHzeINuMEEMuNOONuOPERATOR HAH WITH DAL",
   "zeMEEM WITH HAH WITH TATWEELuQAFuREHuSADvEENvHEENvTRETCHED AINzfBEHzfDADzgOTLESS BEHznFEHzfFEH",
   "zfGHAINzfHAHzgEHzfJEEMzfKAFzgHAHzfMEEMzfNOONzfQAFzfSADzgEENzgHEENzfTAHzgEHzgHEHzfYEHzfZAHuTAH",
   "wILED AINzcDADzdOTLESS NOONzkQAFzcGHAINzcHAHzcJEEMzcKHAHzcLAMzcNOONzcQAFzcSADzdEENzdHEENzcYEH",
   "vEHvHALwEHuWAWuYEHuZAHwINhNUMBER MARK ABOVEoSIGNhOPEN DAMMATANmFATHATANmKASRATANhPERCENT SIGN",
   "iIASTRE MARK ABOVEiLACE OF SAJDAHiOETIC VERSE SIGNjUND MARK ABOVEhQUESTION MARK",
   "hRAISED ROUND DOTjYiEVERSED DAMMAiIGHT ARROWHEAD ABOVEzd WITH DOTxBELOW",
   "iOUNDED HIGH STOP WITH FILLED CENTREhSEMICOLONiHADDAn ISOLATED FORMoMEDIAL FORM",
   "iIGN ALAYHE ASSALLAMmMISRAmRADI ALLAHOU ANHUoHMATULLAH ALAYHEmSAFHAoLLALLAHOU ALAYHE WASSALLAM",
   "oMVAToNAHnINDHI AMPERSANDtPOSTPOSITION MENmTAKHALLUSiMALL DAMMAnFARSI YEHpTHAnHIGH AIN",
   "sDOTLESS HEAD OF KHAHsFARSI YEHtOOTNOTE MARKERsJEEMsLAM ALEFtIGATURE ALEF WITH LAM WITH YEH",
   "zcQAF WITH LAM WITH ALEF MAKSURAzcSAD WITH LAM WITH ALEF MAKSURAsMADDAtEEM INITIAL FORM",
   "ySOLATED FORMsNOONw WITH KASRAsQAFsROUNDED ZEROsSADtEENtIGN SAFHAsTAHtHREE DOTS",
   "sUPRIGHT RECTANGULAR ZEROsWAWtORD AL-JUZyN-NISFyR-RUByS-SAJDAyTH-THALATHAxQIFxSAHzKTAxWAQFA",
   "sYEHv BARREE WITH TWO DOTS BELOWsZAHuINnKASRAnLOW MEEMrNOON WITH KASRArSEENrWAWsORD IMAALA",
   "xSHMAAMwTASHEELnWAWnYEHiTART OF RUB EL HIZBiUBSCRIPT ALEFjKUNm BELOWnISOLATED FORMnMEDIAL FORM",
   "jPERSCRIPT ALEF MOKHASSASiYMBOL DOT ABOVEsBELOWqUBLE VERTICAL BAR BELOWoFOUR DOTS ABOVEyBELOW",
   "oRINGoSMALL TAH ABOVEyBELOWoTHREE DOTS ABOVEzBELOWzPOINTING DOWNWARDS ABOVEztBELOW",
   "pWO DOTS ABOVExBELOWxVERTICALLY ABOVEzjBELOWoWASLA ABOVEhTAIL FRAGMENTjTWEEL",
   "o WITH FATHATAN ABOVEuOVERSTRUCK HAMZAzgWAWuTWO DOTS BELOWiHOUSANDS SEPARATORiONE LOOP ABOVE",
   "rBELOWmONE DOT ABOVEuBELOWmTWO DOTS ABOVEvBELOWiRIPLE DOT PUNCTUATION MARKiURNED DAMMA BELOW",
   "hVERTICAL TAILiOWEL SIGN DOT BELOWsINVERTED SMALL V ABOVEsSMALL V ABOVEhWAVY HAMZA BELOW",
   "hZWARAKAYg-INDIC CUBE ROOTnDIGIT EIGHTtFIVEuOURtNINEtONEtSEVENuIXtTHREEuWOtZEROnFOURTH ROOT",
   "nPER MILLE SIGNrTEN THOUSAND SIGNcCcIEScMENIAN ABBREVIATION MARKkPOSTROPHEjCAPITAL LETTER AYB",
   "yBENyCAzHAzbEHzOyDAyECHzHzTyFEHyGHADzIMyHOyINIyJAzHEHyKEHzbNyLIWNyMENyNOWyOHyPEHzIWRyRAzEHySEH",
   "zHAyTIWNzOyVEWzOyXEHyYIzbWNyZAzHEkOMMAjDRAM SIGNjEMPHASIS MARKkXCLAMATION MARKjFULL STOP",
   "jHYPHENjMODIFIER LETTER LEFT HALF RINGjQUESTION MARKjSMALL LETTER AYBwBENwCAxHAyEHxOwDAwECHxH",
   "xTwFEHwGHADxIMwHOwINIwJAxHEHwKEHyNwLIWNwMENwNOWwOHwPEHxIWRwRAxEHwSEHxHAwTIWNxOxURNED AYBwVEWxO",
   "wXEHwYIy WITH STROKEyWNwZAxHEqIGATURE ECH YIWNyMEN ECHzdINIzdNOWzdXEHyVEW NOW",
   "cROW POINTING DOWNWARDS THEN CURVING LEFTWARDSznRIGHTWARDSpRIGHTWARDS THEN CURVING DOWNWARDS",
   "zoSOUTH WESTzoUPWARDSpUPWARDS THEN NORTH WESTfHEAD-SHAPED POINTERcTICULATED LORRYeST PALETTE",
   "bSCENDING NODEdIA SYMBOLcSERTIONcTERISKi OPERATORhMdONISHED FACEdRAEA",
   "eONOMICAL SYMBOL FOR URANUScYMPTOTICALLY EQUAL TObTHLETIC SHOEcOM SYMBOLbUBERGINEcSTRAL SIGN",
   "cTO RICKSHAWeMATED TELLER MACHINEfOBILEbVESTAN ABBREVIATION MARKiLETTER AqArNrOqErEqNqOpBEqHE",
   "pCEpDEqHEpEqEpFEpGEqGEqHEpHEqMEpIqIpJEpKEpLEpMEpNEqGErVErYEqNEqYEpOqOpPEpREpSEqHErYEqSHEpTEqHE",
   "qTEpUqUpVEpXEqVEqYEpYEqYEpZEqHEcOCADObXEaBABYe ANGELfBOTTLEfCHICKfSYMBOLcCK OF ENVELOPE",
   "fWITH LEFTWARDS ARROW ABOVEe-TILTED SHADOWED WHITE RIGHTWARDS ARROW",
   "eSLANTED SOUTH ARROW WITH HOOKED TAILzgRIZONTAL TAILfPACEdONdTRIAN CAMELcDGER",
   "dMINTON RACQUET AND SHUTTLECOCKcGELdGAGE CLAIMdUETTE BREADcLINESE ADEG ADEGjCARIK PAMUNGKAH",
   "rRERENpSIKIjDIGIT EIGHTpFIVEqOURpNINEpONEpSEVENqIXpTHREEqWOpZEROjLETTER AIKARArKARAv TEDUNG",
   "rRCHAIC JNYArSYURA SASAKqBAs KEMBANGqCAs LACAqDAs MADUuURDA ALPAPRANAzMAHAPRANAqEF SASAKrKARA",
   "qGAs GORAqHAqIKARAv TEDUNGqJAs JERAqKAs MAHAPRANAsF SASAKrHOT SASAKqLAs LENGAy TEDUNGqMAqNA",
   "s RAMBATrGArYAqOKARAv TEDUNGqPAs KAPALqRAs REPAx TEDUNGqSAs SAGAvPAqTAs LATIKtMURDA MAHAPRANA",
   "tTAWArZIR SASAKqUKARAv TEDUNGqVE SASAKqWAqYAqZAL SASAKjMUSICAL SYMBOL COMBINING BENDEzjENDEP",
   "zjGONGzjJEGOGANzjKEMPLIzp WITH JEGOGANznULzp WITH JEGOGANzjTEGEHyDAENGzbINGzbNGzd GEDEzeSURANG",
   "zENGzbUNGzINGzONGzUNGyLEFT-HAND CLOSED PLAKzsUKzjOPEN PANGzpINGzpUNGyRIGHT-HAND CLOSED TAKzsUK",
   "zkOPEN DAGzqUGjPAMADAp LANTANGmENENGlNTIo LANTANGjSIGN BISAHoCECEKoREREKANoSURANGoULU CANDRA",
   "sRICEMjVOWEL SIGN LA LENGAzd TEDUNGuPEPETz TEDUNGuRA REPAzc TEDUNGuSUKUy ILUTuTALINGzb REPA",
   "zg TEDUNGzcTEDUNGvEDUNGuULUx SARIjWINDUdL OF YARNeET SHOESeOONh-SPOKED ASTERISK",
   "fT BOLD SCRIPT XjXk WITH BALLOTrOLD CHECKvSCRIPT XqCHECKqLIGHT XqSCRIPT XqXhSCRIPT XhX",
   "cMUM COLONiMBINING MARK KOQNDONvTUKWENTISjMAgFULL STOPgLETTER AnEEnFAAMAEoEEoOMoUnInKAoENpTpUX",
   "oIoOpGHOMpVUUoPAoUoYEEnLAoEEEEoIoOQoUnMoAoBAApENoEEEEpNoIoOoUnNAoDAAoGApGApKWAENoIoJAEMpEEpUAE",
   "oSHAoTEEpUUoUpAEoYInOnPAoEEpUXoHASE-A FIRIvGBIEE FONwHEUAEGHEUAEzcRAEvKAFAxQwETxUKEUTNDAwPOQ",
   "wUOQvLAPAQwET KUTwOMMAEwUxAEPvMAEKEUPyMzBGBIEEzKPENzVEUXyNYIySIxNSUAExP PIEETwBANYIyQ",
   "wEUNJOMNDEUQwGBASAwON NGGEUAETxOMEUTzPUQwVEUAENGAMvNAA MFONxQwDA LEERAEWAyANGGEUAETwENwGANGU",
   "xGENxKUE MFONzbNZEUMwIKAwJAMwKAARAExINDIwSHAyIEEwTAPz MFAAzbNTAAxOQPENwYETxIyT MONGKEUAEQ",
   "wZA MFONxUN MEUTvPA LEERAEWAxAMyRAExMSHAExSHAEwETwON MFON PIPAEMBAzlGBIEEzPA NJI PIPAEMBA",
   "znGBIEEwUPvROMvSEUNYAMwHINDA PA NJIyRAExOQ NSHUT YUMxUENSHUETyMwISAwONJAMxQxTwUUvTEUAENyTEUWEN",
   "wITA MFONwU MAEMBAxAEPvU YUQ NAEwNKNOWNvVEEtB FEExUXvGHEUGHENzdUAEMvKAMwEUAEMyPUQyYEUXwIEEMxQ",
   "vLAANAExM NSHUT NYAMwETwOM NTEUMvMAx NJEUAENAzbUQAwBA MAELEEyARAExEURIxIT MBAAKETxUOQwEUQ",
   "yT NGGEETwFIYAQxON TEUAEQwONTIEENvNDU NJAAwGGAAMyEU MBUyUOQzc LARGExKINDI MVOPxOMwSENxHUET",
   "wTIEE SHEUOQwYAEMAExI NTEUMvPARUMwEESHIwITwUNGAAMvSAKEUAEwET TUwHET NJAQyUAEQTUwIEEwUEvTAAM",
   "wU MAEMGBIEEyNSIEEvVEUMvWUAETvYAFU LEERAEWAwEURAEtC BUNGvFUEvGBAYIwHAPyRAEvKAAwEN FATIGUEzLAW",
   "xTxUKAQyMySEUXzHEUAEPwPARAQwUOP NKAARAExTvLAMxPwIQwUvMA KEUAERIyNSIEExEMBAySIwBAA CABBAGE-TREE",
   "zbPICKETyNYIxEEKEETyRAEyUMzXxIyRIEENyTxUAEMyEwGBASAQwIEEwUAEvNANSANAQxQwDAMyPxEUAEREEzTxIDA",
   "xOMBUwGAQxGENyUzAEN NYAMzEETzMzONxKAQyUE MAEMBAxOMwJAEMyMxEEEEyUXxUEQwSAxEUAENxHAQxOMxUN",
   "yOT NGOMwTAAxENyUNGBAxU MBITwYIR MKPARAQ MEUNwZAxEUMvPENwINxRIEENvRUvSETFONxUXwHIQxUEQwUAET",
   "vTAASHAEwETxUTEUXwITA YUEyUAEPvVEUAEPENyXvWANGKUOQwUPvYAAwEUQwU MUOMAExMxWOQtD FAAwEUFEUAET",
   "vGHAAxEUAEvKETxUAETMEUNyMyOT MBUAEyPwUxNxOMxQwWAETwYEEvLEEEExTxUAEPyMwIEEwOQwUMvMwAENJETxLEERI",
   "wBAAz SEVENxUOwEEEExUNyTwFEUAEzTxIEExOyNwGBEUNyIEEyOFUMwONIwUwVOPvNDAMxEEyUXxONwGGAAMzcAEzP",
   "yEUXyUOMyWAENxKAPyEUAEQzbRIyIEEyUNyYEEwIwJAPxEUAEMzTxIyEExUEQwSHEEyUTxIEEPzbTxUMwTEEyUMxUUwU",
   "wYAMxETxIxUEvPAPwEExUTAEwIPwUQxUTvRAEMwEN MUCHzOLDwIIvSAPxQwEUAEQwHEEyUAEzXxIIxOQxUwOTwUAExExU",
   "vTAEwEEEExUAENyNyTwIwOQwUxOTvWAPwUAENvYAEMMAEwENwUOMyPxWOQtE AvFAxQwEEwOMwU CALLyIyREMEDYxEyT",
   "vGBETyUXwHAAMAExETyUAEzNzXxOMvIvKETxUAEyXwIwOwPEUXwUETxOPxTvLAAMxPxQwEUAEMwOMxONyTxQwUvMAxEyM",
   "xPxQwBEEyUMwENwFEUQwGBAyENwIxEEwONwUAEwVIvNAxEwDAA MY HOUSEzbSOFTNESSyPxIAQyQxUNwGAxEUREUT",
   "xGEEEEzUAEzdTyUAESHAE NYAMzPzRAExKAzAMIyEUAEMzbXyUMzPxOPyQxUAEzbTwJAEMLIxEEz EPOCHyUXwKOM",
   "wSHIEEyUEzOPwTAPxUMwYI BETWEENzCLEAVERwZAQxUQvOvPA PEOPLEzLURALxAyMwEEMxUTyXwIxEEQyTwOxONwUxAE",
   "yQxExMvRAExQwEUXwIMGBAvSAAwEExTwHEUAEQxIQxOyQwOMwUAENvTAAyQxEN NTEUMxMxQwENxUyAEQwOOyNxQwUAExM",
   "yAEvVEExUAEwOMvWEUXwUExOvYAPwEUAEzbTyMyXwIEExTwOQ COVERzSWIMMINGwUAENxEQxNxQtF EEvFOMvKAwENxT",
   "wOwPAwUwYEEvLAwIwOQvMwAwBAAxENwEEEEwOvNDAAwGGAxKWAENwIwJAEMxUAEwSHAwTEEwUxAEwYIvPEExUXwUAEvREE",
   "xNxUXwIEExIwUvSAMBAwEUXwHIIxOxUwIwUUvTAAxEwETvUvVUEQvWAwUEvYAwOQoIoUAEpEnRAEoEEpNpUXoIEEpIoU",
   "nSAMBAoEUXoHEUXpIIpOpUoIoUUnTAApEoENpToInUnWAoUEnYAoOQoUQgNJAEMLIgQUESTION MARKgSEMICOLONcNANA",
   "dJOdKeNOTE WITH DOLLAR SIGNoEURO SIGNoPOUND SIGNoYEN SIGNcR CHARTeOF SOAPdBER POLEcSEBALLdKET",
   "gBALL AND HOOPdSA VAH COMBINING HIGH TONEy-LOW TONEuLOW TONEx-MID TONEuMID TONEkFULL STOP",
   "kLETTER ArBArCErDHIIsOrEsEsNNIrFArGAHsBUrHWAHrIrJOrKAsPAHrMBErOsOrPArSErTOrUsWUrVUrWAtDDArYEIN",
   "sIErZOcTdAK CONSONANT SIGN HvNGgLETTER AnBAnCAnDAnGAnHAnInJAnKARO BAnLAnMApNDAILING HAyNAySA",
   "oBAnNAoDAoGAoORTHERN TAoYAnPApKPAK WAnRAnSAoIMALUNGUN AyGAyHAyLAyMAyPAyRAySAyWAyYAoOUTHERN TA",
   "nUnWAnYAgPANGOLATjONGONANgSIGN TOMPIhYMBOL BINDU JUDULtNA METEKtPANGOLATuINARBORAS",
   "gVOWEL SIGN EsErIrKARO IwOrOrPAKPAK ErUs FOR SIMALUNGUN SAdHeTUBdTERYbEACH WITH UMBRELLA",
   "dMED ASCENDING MUSICAL NOTEShDESCENDING MUSICAL NOTEShEIGHTH NOTEShSIXTEENTH NOTESdNSdR FACE",
   "eDED PERSONdTING HEARTdVERcCAUSEcDcER MUGdTLEcLdLe PEPPERfSYMBOLfWITH CANCELLATION STROKE",
   "eHOP BELLcNGALI ABBREVIATION SIGNjNJIjU LENGTH MARKiCURRENCY DENOMINATOR SIXTEEN",
   "rNUMERATOR FOURzcONEzf LESS THAN THE DENOMINATORzcTHREEzdWOiDIGIT EIGHToFIVEpOURoNINEoONE",
   "oSEVENpIXoTHREEpWOoZEROiGANDA MARKiISSHARiLETTER AqAqIqUpBAqHApCAqHApDAqDArHAqHApEpGAqHApHApI",
   "qIpJAqHApKAqHAsNDA TApLApMApNAqGAqNAqYApOpPAqHApRAr WITH LOWER DIAGONALxMIDDLE DIAGONALqHAqRA",
   "pSAqHAqSApTAqHAqTArHApUqUpVEDIC ANUSVARAqOCALIC LyLxRyRpYAqYAiRUPEE MARKoSIGNiSANDHI MARK",
   "jIGN ANUSVARAoVAGRAHAnCANDRABINDUnNUKTAnVIRAMApSARGAiVOWEL SIGN AAuIuUtEtIuItOtUuUtVOCALIC L",
   "zdLzcRzdRdT ARROW POINTING DOWNWARDS THEN NORTH EASTeO BOXdZENE RINGm WITH CIRCLEcT SYMBOL",
   "dWEENcVERAGE BOXbHAIKSUKI DANDAlIGIT EIGHTqFIVErOURqNINEqONEqSEVENrIXqTHREErWOqZERO",
   "lOUBLE DANDAkGAP FILLER-1v2kHUNDREDS UNIT MARKkLETTER AsAsIsUrBAsHArCAsHArDAsDAtHAsHArErGAsHA",
   "rHArIsIrJAsHArKAsHArLArMArNAsGAsNAsYArOrPAsHArRArSAsHAsSArTAsHAsTAtHArUsUrVAsOCALIC LzRzbRrYA",
   "kNUMBER EIGHTwYrFIFTYtVEsORTYtURrNINEvTYrONErSEVENwTYsIXuTYrTENsHIRTYtREEsWENTYtO",
   "kSIGN ANUSVARAqVAGRAHApCANDRABINDUpVIRAMArSARGAkVOWEL SIGN AAwIwUvEvIwIvOvUwUvVOCALIC LzeRzfR",
   "kWORD SEPARATORbICYCLEgISTcG REVERSE SOLIDUSeSOLIDUScKINIcLLED CAPeIARDScOHAZARD SIGNcRD",
   "dTHDAY CAKEcSONcTCOIN SIGNdING LIPbLACK BOWTIEgCENTRE WHITE STARhHESS BISHOP",
   "s ROTATED NINETY DEGREESzcTWO HUNDRED SEVENTY DEGREESmEQUIHOPPERw ROTATED NINETY DEGREESmKING",
   "q ROTATED NINETY DEGREESzTWO HUNDRED SEVENTY DEGREESnNIGHTs ROTATED FORTY-FIVE DEGREES",
   "zcNINETY DEGREESzcONE HUNDRED THIRTY-FIVE DEGREESzcTHREE HUNDRED FIFTEEN DEGREES",
   "zdWO HUNDRED SEVENTY DEGREESzoTWENTY-FIVE DEGREESs-BISHOPtQUEENtROOKmPAWN",
   "q ROTATED NINETY DEGREESzTWO HUNDRED SEVENTY DEGREESmQUEENr ROTATED NINETY DEGREES",
   "zbTWO HUNDRED SEVENTY DEGREESmROOKq ROTATED NINETY DEGREESzTWO HUNDRED SEVENTY DEGREES",
   "mTURNED BISHOPtKINGuNIGHTtPAWNtQUEENtROOKhIRCLEm FOR RECORDnWITH DOWN ARROWsTWO WHITE DOTS",
   "sWHITE DOT RIGHThLUB SUIThROSS ON SHIELDhURVED DOWNWARDS AND LEFTWARDS ARROWzcRIGHTWARDS ARROW",
   "nLEFTWARDS AND DOWNWARDS ARROWzcUPWARDS ARROWnRIGHTWARDS AND DOWNWARDS ARROWzdUPWARDS ARROW",
   "nUPWARDS AND LEFTWARDS ARROWzRIGHTWARDS ARROWgDIAMONDn CENTREDoMINUS WHITE XoON CROSSoSUIT",
   "oWITH DOWN ARROWhOWN POINTING BACKHAND INDEXk-POINTING DOUBLE TRIANGLE",
   "uISOSCELES RIGHT TRIANGLEuSMALL TRIANGLEuTRIANGLEkWARDS EQUILATERAL ARROWHEADhRAUGHTS KINGpMAN",
   "iOPLETgFLAGiORETTEhOLDERiUR POINTED STARgHARD SHELL FLOPPY DISKhEARTl SUITiXAGON",
   "hORIZONTAL ELLIPSEiURGLASSgLARGE CIRCLEmSQUAREhEFT LANE MERGElPOINTING BACKHAND INDEXuINDEX",
   "k-POINTING DOUBLE TRIANGLEzk WITH VERTICAL BARuISOSCELES RIGHT TRIANGLEuPOINTERuSMALL TRIANGLE",
   "uTRIANGLEkWARDS BULLETqEQUILATERAL ARROWHEADhOWER LEFT TRIANGLEmRIGHT TRIANGLEiZENGE",
   "gMEDIUM DIAMONDoOWN-POINTING TRIANGLEzk CENTREDnLEFT-POINTING TRIANGLEzk CENTREDoOZENGE",
   "nRIGHT-POINTING TRIANGLEzl CENTREDnSMALL DIAMONDtLOZENGEtSQUAREoQUAREnUP-POINTING TRIANGLE",
   "zi CENTREDhOON LILITHgNIBgOCTAGONgPARALLELOGRAMhENNANTjTAGONhUSHPINgQUESTION MARK ORNAMENT",
   "gRECTANGLEhIGHT POINTING BACKHAND INDEXvINDEXl-POINTING DOUBLE TRIANGLEzl WITH VERTICAL BAR",
   "vISOSCELES RIGHT TRIANGLEvPENTAGONwOINTERvSMALL TRIANGLEvTRIANGLEze WITH DOUBLE VERTICAL BAR",
   "lWARDS ARROWwHEADrBULLETrEQUILATERAL ARROWHEADhOSETTEgSAFETY SCISSORShCISSORShHOGI PIECE",
   "hKULL AND CROSSBONEShLIGHTLY SMALL CIRCLEvSQUAREhMALL DIAMONDmLOZENGEmSQUAREnTARiILING FACE",
   "hNOWMANhPADE SUIThQUAREm BUTTONnCENTREDnFOR STOPhTARhUN WITH RAYSgTELEPHONEhINY DIAMOND",
   "lLOZENGElSQUAREhOUCHTONE TELEPHONEhRUCKhWO-WAY LEFT WAY TRAFFICgUNIVERSAL RECYCLING SYMBOL",
   "hP POINTING BACKHAND INDEXi-POINTING DOUBLE TRIANGLEsISOSCELES RIGHT TRIANGLEsSMALL TRIANGLE",
   "sTRIANGLEiPER LEFT TRIANGLEmRIGHT TRIANGLEiWARDS EQUILATERAL ARROWHEADgVERTICAL ELLIPSE",
   "pRECTANGLEjY SMALL DIAMONDrLOZENGErSQUAREf-FEATHERED NORTH EAST ARROWqRIGHTWARDS ARROW",
   "qSOUTH EAST ARROWgLETTER CAPITAL CvHvIvRvZdNK SYMBOLcOCK SEXTANT-1p2q3r4s5s6r5s6r6q4r5s6r6q5r6",
   "q6p3q4r5s6r6q56q6p4q5r6q6p5q6p6o2p3q4r5s6r6q5r6q6p4q5r6p5q6p6o3p4q5r6q6p5q6p6o4p5q6p6o5p6o6",
   "dSSOMdWFISHcUE BOOKfHEARTeBERRIESbOARcLD EIGHT SPOKED ASTERISKfFIVE SPOKED ASTERISK",
   "fGREEK CROSSfSALTIREgIX SPOKED ASTERISKfWHITE CIRCLElSQUAREcMdBcNEcOKeMARKi TABSeSdMERANG",
   "cPOMOFO FINAL LETTER GwHwKwPwTjLETTER ArHrIsNNrMrNsGsNrUsNNqBrUqCrHqDqErErHrIrNsGsNrRqFqGrHrN",
   "rUrWqHqIrHrMrNNtNrRrUqJrIqKrWqLrHqMqNrGsGrNqOr WITH DOT ABOVErErMrNGsNrOrUqPqQqRqSrHqTqUrNNqV",
   "qXqZrHrIrYcTTLE WITH POPPING CORKeOM ARC ANTICLOCKWISE ARROWhCURLY BRACKEThHALF BLACK CIRCLE",
   "mINTEGRALmLEFT PARENTHESISmRIGHT PARENTHESIShLEFT CORNERnROPmHALF BRACKEThPARENTHESIS",
   "hRIGHT CORNERoROPnHALF BRACKEThSQUARE BRACKETv OVER TOP SQUARE BRACKEThTORTOISE SHELL BRACKET",
   "cUQUETh OF FLOWERScW AND ARROWdL OF HYGIEIAfWITH SPOONeINGdTIEg WITH LEFT HALF BLACK",
   "mRIGHT HALF BLACKcX DRAWINGS DOUBLE DOWN AND HORIZONTALzeLEFTzeRIGHTuHORIZONTAL",
   "uUP AND HORIZONTALzcLEFTzcRIGHTuVERTICALzd AND HORIZONTALziLEFTziRIGHT",
   "pWN DOUBLE AND HORIZONTAL SINGLEzeLEFT SINGLEzeRIGHT SINGLEsHEAVY AND HORIZONTAL LIGHT",
   "zdLEFT LIGHTziUP LIGHTzdRIGHT LIGHTzjUP LIGHTzdUP HORIZONTAL LIGHTsLIGHT AND HORIZONTAL HEAVY",
   "zdLEFT HEAVYziUP HEAVYzdRIGHT HEAVYzjUP HEAVYzdUP HORIZONTAL HEAVY",
   "sSINGLE AND HORIZONTAL DOUBLEzeLEFT DOUBLEzeRIGHT DOUBLEnHEAVY DOUBLE DASH HORIZONTAL",
   "zgVERTICALvWNx AND HORIZONTALzdLEFTzdRIGHTtHORIZONTALtLEFTx AND LIGHT RIGHT",
   "tQUADRUPLE DASH HORIZONTALzjVERTICALtRIGHTtTRIPLE DASH HORIZONTALzgVERTICALtUPv AND HORIZONTAL",
   "zbLEFTzcIGHT DOWNzbRIGHTtVERTICALzc AND HORIZONTALzhLEFTzhRIGHT",
   "nLEFT DOWN HEAVY AND RIGHT UP LIGHTsHEAVY AND RIGHT DOWN LIGHTzjUP LIGHTzjVERTICAL LIGHT",
   "sLIGHT AND RIGHT DOWN HEAVYzjUP HEAVYzjVERTICAL HEAVYsUP HEAVY AND RIGHT DOWN LIGHT",
   "oIGHT ARC DOWN AND LEFTzhRIGHTxUP AND LEFTzfRIGHTtDIAGONAL CROSSzdDIAMOND",
   "zdMIDDLE LEFT TO LOWER CENTREzzf TO MIDDLE RIGHTzsUPPER CENTRE TO MIDDLE RIGHT",
   "zzv TO LOWER CENTREzkRIGHT TO LOWER CENTREztUPPER CENTRE TO MIDDLE LEFT TO LOWER CENTRE",
   "zdUPPER CENTRE TO MIDDLE LEFTzzf AND MIDDLE RIGHT TO LOWER CENTREzzgTO LOWER CENTRE",
   "zzv TO MIDDLE RIGHTzzbRIGHTzzg AND MIDDLE LEFT TO LOWER CENTREzzhTO LOWER CENTRE",
   "zzw TO MIDDLE LEFTzjLEFT TO LOWER RIGHTzjRIGHT TO LOWER LEFTuOUBLE DASH HORIZONTALzgVERTICAL",
   "vWNx AND HORIZONTALzdLEFTzdRIGHTtHORIZONTALze WITH VERTICAL STROKEtLEFTx AND HEAVY RIGHT",
   "tQUADRUPLE DASH HORIZONTALzjVERTICALtRIGHTtTRIPLE DASH HORIZONTALzgVERTICALtUPv AND HEAVY DOWN",
   "zcORIZONTALzbLEFTzbRIGHTtVERTICALzc AND HORIZONTALzhLEFTzhRIGHT",
   "nRIGHT DOWN HEAVY AND LEFT UP LIGHTtHEAVY AND LEFT DOWN LIGHTzjUP LIGHTzjVERTICAL LIGHT",
   "tLIGHT AND LEFT DOWN HEAVYzjUP HEAVYzjVERTICAL HEAVYtUP HEAVY AND LEFT DOWN LIGHT",
   "nUP DOUBLE AND HORIZONTAL SINGLEzcLEFT SINGLEzcRIGHT SINGLEqHEAVY AND DOWN HORIZONTAL LIGHT",
   "zbHORIZONTAL LIGHTzbLEFT DOWN LIGHTzgLIGHTzbRIGHT DOWN LIGHTzhLIGHT",
   "qLIGHT AND DOWN HORIZONTAL HEAVYzbHORIZONTAL HEAVYzbLEFT DOWN HEAVYzgHEAVYzbRIGHT DOWN HEAVY",
   "zhHEAVYqSINGLE AND HORIZONTAL DOUBLEzcLEFT DOUBLEzcRIGHT DOUBLE",
   "nVERTICAL DOUBLE AND HORIZONTAL SINGLEziLEFT SINGLEziRIGHT SINGLEwHEAVY AND HORIZONTAL LIGHT",
   "zhLEFT LIGHTzhRIGHT LIGHTwLIGHT AND HORIZONTAL HEAVYzhLEFT HEAVYzhRIGHT HEAVY",
   "wSINGLE AND HORIZONTAL DOUBLEziLEFT DOUBLEziRIGHT DOUBLEdING GLOVEcYdS SYMBOLbPHbRAHMI DANDA",
   "iIGIT EIGHTnFIVEoOURnNINEnONEnSEVENoIXnTHREEoWOnZEROiOUBLE DANDAhLETTER ApApIpUoBApHAoCApHAoDA",
   "pDAqHApHAoEoGApHAoHAoIpIoJApHAoKApHAoLApLAoMAoNApGApNApYAoOpLD TAMIL LLAzbLAyNNNAyRRAySHORT E",
   "zfOoPApHAoRAoSApHApSAoTApHApTAqHAoUpUoVApOCALIC LxLwRxRoYAhNUMBER EIGHTtYoFIFTYqVEpORTYqUR",
   "oJOINERoNINEsTYoONEr HUNDREDsTHOUSANDoSEVENtTYpIXrTYoTENpHIRTYqREEpWENTYqO",
   "hPUNCTUATION CRESCENT BARtDOTvUBLE DOTtLINEuOTUShSIGN ANUSVARAmCANDRABINDUmJIHVAMULIYA",
   "mOLD TAMIL VIRAMAmUPADHMANIYAmVISARGAhVIRAMAiOWEL SIGN AAtItUsBHATTIPROLU AAsEsItIsO",
   "tLD TAMIL SHORT EzjOsUtUsVOCALIC LzcLzbRzcRdILLE PATTERN BLANKqDOTS-1w2x3y4z5zb6zc7zd8zc8zb7",
   "zc8zb8z6zb7zc8zb8z7zb8z8y5z6zb7zc8zb8z7zb8z8y6z7zb8z8y7z8y8x4y5z6zb7zc8zb8z7zb8z8y6z7zb8z8y7z8",
   "y8x5y6z7zb8z8y7z8y8x6y7z8y8x7y8x8w3x4y5z6zb7zc8zb8z7zb8z8y6z7zb8z8y7z8y8x5y6z7zb8z8y7z8y8x6y7",
   "z8y8x7y8x8w4x5y6z7zb8z8y7z8y8x6y7z8y8x7y8x8w5x6y7z8y8x7y8x8w6x7y8x8w7x8w8v2w3x4y5z6zb7zc8zb8z7",
   "zb8z8y6z7zb8z8y7z8y8x5y6z7zb8z8y7z8y8x6y7z8y8x7y8x8w4x5y6z7zb8z8y7z8y8x6y7z8y8x7y8x8w5x6y7z8y8",
   "x7y8x8w6x7y8x8w7x8w8v3w4x5y6z7zb8z8y7z8y8x6y7z8y8x7y8x8w5x6y7z8y8x7y8x8w6x7y8x8w7x8w8v4w5x6y7",
   "z8y8x7y8x8w6x7y8x8w7x8w8v5w6x7y8x8w7x8w8v6w7x8w8v7w8v8eNcEADeK PERMITTED HEREeST-FEEDINGdVE",
   "cICKdDE WITH VEILeGE AT NIGHTdEFCASEfScOCCOLIdKEN BARhCIRCLE WITH NORTHWEST ARROWhHEARTdOM",
   "dWN HEARTbSbUBBLE TEAgScCKETcGdINESE END OF SECTIONjLETTER AqBAqCAqDAqGAqHAqJAqKAqLAqMArPAqNA",
   "rGAsKArRArYAsCAqPAqRAqSAqTAqVAqYAjPALLAWAjVOWEL SIGN AEuEuIuOuUcHID LETTER AnBAnDAnGAnHAnInKA",
   "nLAnMAnNAoGAnPAnRAnSAnTAnUnWAnYAgVOWEL SIGN IrUcILDING CONSTRUCTIONcLLETg OPERATOReHORN",
   "i WITH SOUND WAVESeSEYEcRRITOcSd STOPdT IN SILHOUETTEeS IN SILHOUETTEcTTERgFLYbYTE ORDER MARK",
   "cZANTINE MUSICAL SYMBOL AGOGI ARGIzjOTERIzgGORGIzkOTERIzgMESIziTRIAzgPOLI ARGIzlGORGI",
   "zbNATRICHISMAzcTIKENOKYLISMAziMAzbPESO EKFONITIKONzhXO NEOzcLIzcODERMA ARCHAIONzjNEO",
   "zdSTROFOI SYNDESMOS NEOzlTELOUS ICHIMATOSzjSzk DIPLIzlNEOzdTHEMAzbRGONzeSYNTHETONzcKTIKO DI",
   "ziGAziKEziNIziPAziVOUziZOzCHAMILIzgONzcOREVMA ARCHAIONzjNEOzcROA KLITONzgSPATHIzgZYGOSzDASEIA",
   "zbIARGONzdSTOLI APLI MEGALIzpIKRIzjDIPLIzjTHESEOSzcESIS APLI DYO DODEKATA",
   "zhDIGRAMMOS EX DODEKATAzhMONOGRAMMOS TESSERA DODEKATAzhTETARTIMORIONziRIGRAMMOS OKTO DODEKATA",
   "zkTIMORIONzcFTOGGOS OUzcGORGONzi PARESTIGMENON ARISTERA ANOzzhKATOzxDEXIAzdRAMMA GGzcPLI",
   "zf ARCHAIONzbYOzEKSTREPTONzbLAFRONzbNARXIS KAI FTHORA VOUzcDOFONONzbPEGERMA",
   "zbTERON ARGOSYNTHETONzhPARAKALESMAzbXO EKFONITIKONzFANEROSIS DIFONIASzkMONOFONIASzkTETRAFONIAS",
   "zbHTORA SKLIRON CHROMA VASISzbTHORA ARCHAIONzp DEYTEROU ICHOUzhDIATONIKI DIzrKEzrNANAzsI ANO",
   "zuKATOzrPAzrZOzhENARMONIOS ANTIFONIAzhI YFESIS TETARTIMORIONzhMALAKON CHROMA DIFONIAS",
   "zwMONOFONIASzhNAOS ICHOSziENANOzhSKLIRON CHROMA SYNAFIzwVASISzpDIATONON DIzGENIKI DIESIS",
   "zhYFESISzbORGON ARCHAIONzhNEO ANOzlKATOzhPARESTIGMENON ARISTERAzvDEXIAzfSYNTHETON",
   "zdTHMIKON N APLOUNznDIPLOUNzbRONTHISMATAzICHADINzbMIDIARGONzdFONONzeTHORAziON",
   "zbSAKIA TELOUS ICHIMATOSzcON ARCHAIONzfNEOzKATAVA TROMIKONzgSMAzdHISTIzbENTIMA ARCHAION",
   "ziNEO ANOzmKATOzmMESOzhTAzj ARCHAIONzkNEO ANOzoKATOzoMESOzbLASMAzg ANOzhKATOzbONTEVMAzi ALLO",
   "zcRONISzcUFISMAzbRATIMA ALLOzjRCHAIONziNEOzhTAzgOKOUFISMAzhYPORROONzcEMASTIzbYLISMA",
   "zLEIMMA DYO CHRONONzhENOS CHRONOUzhIMISEOS CHRONOUzhTESSARON CHRONONziRION CHRONONzcMOI",
   "zbYGISMAzMARTYRIA ALLI DEYTEROS ICHOSzoPROTOS ICHOSzjDEYTEROS ICHOSzjLEGETOS ICHOS",
   "zjPLAGIOS ICHOSzrTETARTOS ICHOSzkROTOS ICHOSzoVARYS ICHOSzjTETARTOS ICHOSzsLEGETOS ICHOS",
   "zkRIFONIASzmTOS ICHOSzjVARYS ICHOSzbIKRON ISONzNANAzOLIGON ARCHAIONzhNEOzbMALONzbXEIA DIPLI",
   "zgEKFONITIKONzgNEOzfI ARCHAIONzbYRANISMA ARCHAIONzkNEOzPARAKALESMA ARCHAIONzmNEOzfLITIKI",
   "zl ARCHAIONzmNEOzdICHONzbELASTONzi NEOzcRISPOMENIzcTASMAzfTIzgOKOUFISMAzbIASMA ARCHAIONzhNEO",
   "zbSIFISTOLYGISMAziNzj NEOziPARAKALESMAziSYNAGMAzdLIzeONzRAPISMAzbEVMAzSAXIMATAzbEISMAzg NEO",
   "zbIMANSIS ARSEOSzp DISIMOUzqTETRASIMOUzrRISIMOUzjTHESEOSzq DISIMOUzrTETRASIMOUzsRISIMOU",
   "zbTAVROSzh APODEXIAzcIGMAzcRAGGISMATAzbYNAGMA ARCHAIONziMETA STAVROUziNEOzdEVMAzcRMAzfTIKI",
   "zTELEIAzcSSERAzcTRAPLIzbHEMAzf APLOUNzfTISMOS ESOznXOzdS KAI APOTHESzcITAzbINAGMAzbRIAzdGORGON",
   "zdPLIzcOMIKOLYGISMAzhN ALLOzkRCHAIONzjNEOzhPARAKALESMAziSIFISTONzhSYNAGMAzVAREIA DIPLI",
   "zhEKFONITIKONzhNEOzgI ARCHAIONzcTHYzXIRON KLASMAzYFEN ANOzfKATOzdSIS APLI DYO DODEKATA",
   "zhDIGRAMMOS EX DODEKATAzhMONOGRAMMOS TESSERA DODEKATAzhTRIGRAMMOS OKTO DODEKATAzkTIMORION",
   "zbPOKRISISzj DIPLIzdRROIzcSILIaCACTUScDA UNAdUCEUScLENDARdL ME HANDcMERAg WITH FLASHdPINGcN",
   "dADIAN SYLLABICS AuAvIvYuIvVILIK BuNuTHAPASCAN MzfSuYtBEAVER DENE LzgRuIBLE-CREE YuLACKFOOT A",
   "zeEzeIzeKAzfEzfIzfOzeNAzfEzfIzfOzeOzeSzeWzfAzfEzfIzfOtCuAvAwIvRRIER CHAzeEzfEzeIzeOzeUzcDEE",
   "zeNE GEEzfTAL SzdIzdLAzeEzfEzeIzeOzeUzdZAzeEzfEzeIzeOzeUzcEEzcGAzeAzdEzeEzdHAzeEzfEzeIzeOzeU",
   "zdIzdOzdUzdWAzeUzcHzdEEzdIzdWAzeEzfEzeIzeOzeUzcIzdNITIAL ZzcJAzdEzeEzdIzdJAzeEzfEzeIzeOzeUzdO",
   "zdUzdWAzcKHAzeEzfEzeIzeOzeUzdKzeAzeEzfEzeIzeOzeUzcLAzdEzeEzdHAzeEzfEzeIzeOzeUzdIzdOzdUzcMAzdE",
   "zeEzdIzdOzdUzcNAzdEzeEzdGzdIzdOzdUzcPzdAzdEzeEzdIzdOzdUzcRAzdEzeEzdIzdOzdUzcSAzdEzeEzdHzeAzeE",
   "zfEzeIzeOzeUzdIzdOzdUzcTHAzeEzfEzeIzeOzeUzdLAzeEzfEzeHAzfEzgEzfIzfOzfUzeIzeOzeUzdSAzeEzfEzeI",
   "zeOzeUzdTAzeEzfEzeIzeOzeSAzfEzgEzfIzfOzfUzeUzcWAzdEzeEzdIzdOzdUzcYAzdEzeEzdIzdOzdUzcZzdAzdEzeE",
   "zdIzdOzdUuEuHI SIGNuIvIuOvOuWAwAvEvIwIvOwOtEuASTERN WuNtFuAvAwIuEuIvIvNAL ACUTE",
   "zBOTTOM HALF RINGzDOUBLE ACUTEzhSHORT VERTICAL STROKESzcWN TACKzGRAVEzMIDDLE DOTzPLUS",
   "zRAISED DOTzbIGHT HALF RINGzcNGzSHORT HORIZONTAL STROKEzbMALL RINGzTOP HALF RINGuOvOuULL STOP",
   "uWAAtGLOTTAL STOPtHKuYPHENtIuIuNtKuAvAwIvYuEuIvIuOvOuWvAwAwYvEvIwIvOwOtLuAvAwIvYuEuHvAwAvIwIvO",
   "wOuIvIuOvOuWAwAvEvIwIvOwOtMuAvAwIvYuEvDIAL LzbRuHuIvIuOvOwSE-CREE SKuWAwAvEvIwIvOwOtN",
   "u-CREE THEzdIzeIuAvAwIvSKAPI CWAAzcKWAAzcMWAAzcNWAAzcS-WzdCWAzdKWzfAzdPWAzdTWAzdWAAzcTWAAzcWAA",
   "zdOOzcYWAAvTTILIK HAzfAzeIzfIzeOzfOzdSHRAzhAzgIzhIzgOzhOvYuEuGvAwAxIwIvIwIvOwOuHuIvIuNGwAxAwI",
   "xIwOxOuOvOvYuUNAVIK HzdAzeAzdEzdIzeIzdOzeOyUT HuWAwAvEvIwIvOwOtOuJIBWAY CzcKzcMzcNzdWIzfIzeO",
   "zfOzcPzcSzdHzcTuNuOuYtPuAvAwIvYuEuIvIuOvOvYuWAwAvEvIwIvOwOwYtQuAvAwIvIuIvIuOvOtRu-CREE REzcWE",
   "uAvAwIvYuEuIvIuOvOuWAwAvEEvIwIvOwOtSuAvAwIvYwISI HAzcEzcIzcOzdOzbJIzcUzdUzbMzbSHAzdEzdIzdOzeO",
   "zdWEzbTHzbYIuEuHvAwAwYvEvIwIvOwOwYvWAxAwEwIxIwOxOxYuIvIuOvOvUTH-SLAVEY KAHziEHziIHziOHvYuPAvE",
   "vIvOuWvAwAvEvIwIvOwOtTuAvAwIvYuEuHv-CREE THzeAzfAzeEzeIzfIzeOzfOvAwAvEvIwIvOwOvWAxAwEuIvIuLHA",
   "wEwIwOxOwWEuOvOuTAvEvHwAxAwEwIwOxOwWEvIvOuWAwAvEvIwIvOwOuYAvEvIvOtWAvAvYuEvST-CREE CWAzhAzgE",
   "zgIzhIzgOzhOzeFWAAzeKWAzhAzgEzgIzhIzgOzhOzeLzfAzgAzfEzfOzgOzfWAzhAzgEzgIzhIzgOzhOzeMzfWAzhAzgE",
   "zgIzhIzgOzhOzeNWAzhAzgEzePzfWAzhAzgEzgIzhIzgOzhOzeRzfAzfEzfIzfOzfWAAzeSHWAziAzhEzhIziIzhOziO",
   "zfWAzhAzgEzgIzhIzgOzhOzeTHWAAzfWAzhAzgEzgIzhIzgOzhOzeWAzgAzfEzfIzgIzfOzgOzeYzfWAzhAzgEzgIzhI",
   "zgOzhOxERN WuIvIuOvOwDS-CREE FINAL THzfTHzhAzhEzhIzhOzhWAzjAziEEziIzjIziOzjOtYu-CREE COOzbKOO",
   "zbLOOzbMOOzbNOOzbOOzbPOOzcWAAzbSOOzbTOOzbWzbYOOuAvAwIvYuEuIvIuOvOvYuWAwAvEvIwIvOwOdCEL",
   "g CHARACTERhTAGgLATION XfRdDLEeYdNED FOODdOEcPITULUMdRICORNcR SLIDINGdD FILE BOXfINDEX",
   "k DIVIDERSdE OFeTf INSERTION POINTdIAN LETTER Ap2oBoC-18q39oDp2oEp2oGp2oIpIoKp2oLpDq2oMpBq2q3",
   "q4oNpDpGpNoOoPp2oQoRpRoSpHq2pSpTq2oTpTq2oUpUqUr2r3rUoXdONeUSEL HORSEdP STREAMEReENTRY SAW",
   "dRIAGE RETURNeOTcSTLEcTd FACEi WITH TEARS OF JOYoWRY SMILEcUCASIAN ALBANIAN CITATION MARK",
   "tLETTER ALTzcORzbBETzbCARzdYNzcHAzeTzdIzdOYzcYAWzeYzbDATzcYANzcZAYzdYAYzbEBzcYNzbFAMzbGHEYS",
   "zcIMzbHEYTzbINYAzcRBzcWNzbJAYNzcHOXzbKARzcIWzbLANzcYITzbMAQzbNOWCzbONzbPENzcIWRzbQARzdYzbRAT",
   "zbSEYKzcHAzeKzdOYzbTASzcIWRzcYAYzbVEYZzbXEYNzbYAYDzcOWDzbZARLzcHAzdILdTION SIGNbCHbEDI SIGN",
   "eLLAcLTIC CROSScNT SIGNeRE LINE SYMBOLgLINE LOW LINElOVERLINEcRESbGJbHAINSeRdKMA AU MARKhDANDA",
   "iIGIT EIGHTnFIVEoOURnNINEnONEnSEVENoIXnTHREEoWOnZEROiOUBLE DANDAhLETTER AAoBAApHAAoCAApHAAoDAA",
   "pDAAqHAApHAAoEoGAApHAAoHAAoIoJAApHAAoKAApHAAoLAApHAAoMAAoNAApGAApNAApYAAoPAApHAAoRAAoSAAoTAA",
   "pHAApTAAqHAAoUoVAAoWAAoYAApYAAhMAAYYAAhO MARKhQUESTION MARKhSECTION MARKiIGN ANUSVARA",
   "mCANDRABINDUmVISARGAhVIRAMAiOWEL SIGN AtAtItUsEtIsItIsOtIsUtUdM CONSONANT SIGN FINAL HzbMzbNG",
   "uLAuRAuWAuYAfDIGIT EIGHTlFIVEmOURlNINElONElSEVENmIXlTHREEmWOlZEROfLETTER AnImBAnBAnHAmCHAoHA",
   "mDAnDAnHAmEmFINAL CHsGsKsLsNtGsPsRsSSsTsYmGAnHAmHAmImJAnHAmKAnHAmLAmMAnUEmNAnGAoUEnHAoJAoUEnUE",
   "mOmPAnHAnPAmRAmSAnSAmTAnHAmUmVAmYAfPUNCTUATION DANDAsOUBLE DANDArSPIRALrTRIPLE DANDA",
   "fVOWEL SIGN AArIrUqEIqIrIqOrEqUrEdRACTER TABULATIONu SETvWITH JUSTIFICATIONlIE",
   "eT WITH DOWNWARDS TRENDlUPWARDS TRENDy AND YEN SIGNcECK MARKfER BOARDn FILLdERING MEGAPHONE",
   "eSE WEDGEdQUERED FLAGdROKEE LETTER AqDArErIrLArOrUrVqEqGArErIrOrUrVqHArErIrNArOrUrVqIqKAqLArE",
   "rIrOrUrVqMArErIrOrUrVqNAsHrErIrOrUrVqOqQUAsEsIsOsUsVqSrArErIrOrUrVqTArErIrLAsEsIsOsUsVrSAsEsI",
   "sOsUsVqUqVqWArErIrOrUrVqYArErIrOrUrVjSMALL LETTER AwDAxExIxLAxOxUxVwEwGAxExIxOxUxVwHAxExIxNAxO",
   "xUxVwIwKAwLAxExIxOxUxVwMAxExIxOxUxVwNAyHxExIxOxUxVwOwQUAyEyIyOyUyVwSxAxExIxOxUxVwTAxExIxLAyEyI",
   "yOyUyVxSAyEyIyOyUyVwUwVwWAxExIxOxUxVwYAxExIxOxUxVeRIESfY BLOSSOMdSTNUTcI RHOdCKENdLD",
   "fREN CROSSINGdPMUNKdRONcOCOLATE BARdPSTICKSdRASMIAN LETTER ALEPHtYINsBETHsCURLED WAWsDALETH",
   "sGIMELsHEuTHsKAPHsLAMEDHsMEMsNUNsPEsRESHsSAMEKHtHINtMALL ALEPHsTAWsWAWsYODHsZAYINlNUMBER FOUR",
   "sONEv HUNDREDsTENtHREEtWENTYuOcRISTMAS TREEcURCHbINEMA",
   "cRCLE DIVIDED BY HORIZONTAL BAR AND TOP HALF DIVIDED BY VERTICAL BAR",
   "hWITH ALL BUT UPPER LEFT QUADRANT BLACKmHORIZONTAL BARmLEFT HALF BLACKnOWER HALF BLACK",
   "mRIGHT HALF BLACKmSMALL CIRCLE TO THE RIGHTnUPERIMPOSED XmTWO HORIZONTAL STROKES TO THE RIGHT",
   "mUPPER HALF BLACKsRIGHT QUADRANT BLACKmVERTICAL FILLgD ANTICLOCKWISE ARROW",
   "v-ROTATED DIVISION SIGNjSTERISK OPERATORiBOLD XjULLETiC WITH OVERLAID BACKSLASHjCjD",
   "jROSS FORMEEu WITH FOUR DOTSzbTWO DOTSoPOMMEEnING LANESiDASHjIGIT EIGHToFIVEpOURoNINEoONE",
   "oSEVENpIXoTHREEpWOoZEROkVISION SIGNsLASHjOLLAR SIGN WITH OVERLAID BACKSLASHkT OPERATORiEQUALS",
   "iGREATER-THANiHANGUL CHIEUCHw AqIEUCu ApHIEUHu ApIEUNGu AvUpKHIEUKHw AqIYEOKv ApMIEUMu ApNIEUN",
   "u ApPHIEUPHw AqIEUPu ApRIEULu ApSIOSt ApTHIEUTHw AqIKEUTv AjEAVY WHITE RIGHTWARDS ARROW",
   "jORIZONTAL BAR WITH NOTCHjUMAN FIGUREiIDEOGRAPH ACCEPTtDVANTAGEtLLIANCEtTTENTIONsCENTRE",
   "tONGRATULATIONuPYuRRECTsEARTHtIGHTtNTERPRISEtXCELLENTsFEMALEtINANCIALuREuVEtOURsHAVEtIGHsITEM",
   "sKINDERGARTENtOTOsLABORtEFTtOWsMALEtEDICINEuTALtOONsNAMEtIGHTuNEsONEsPRINTsQUESTIONsRELIGION",
   "uSOURCEvTtIGHTsSCHOOLtECRETuVENtIXtOCIETYtPECIALtTOCKuUDYtUITABLEuNuPERVISEsTENtHREEtWOsWATER",
   "tOODjNFORMATION SOURCEjTALIC LATIN CAPITAL LETTER CzlRiKATAKANA ArErHAsEsIsOsUrIrKAsEsIsOsUrMA",
   "sEsIsOsUrNAsEsIsOsUrOrRAsEsIsOsUrSAsEsIsOsUrTAsEsIsOsUrUrWAsEsIsOrYAsOsU",
   "jOREAN CHARACTER CHAMKOzJUEUIiLATIN CAPITAL LETTER AzeBzeCzeDzeEzeFzeGzeHzeIzeJzeKzeLzeMzeNzeO",
   "zePzeQzeRzeSzeTzeUzeVzeWzeXzeYzeZoSMALL LETTER AzcBzcCzcDzcEzcFzcGzcHzcIzcJzcKzcLzcMzcNzcOzcP",
   "zcQzcRzcSzcTzcUzcVzcWzcXzcYzcZjESS-THANiMINUSjULTIPLICATION SIGN WITH CIRCUMFLEX ACCENT",
   "iNUMBER EIGHTEENuY ON BLACK SQUAREqLEVENpFIFTEENtYu ON BLACK SQUAREqORTYu EIGHTvFIVEwOURvNINE",
   "vON BLACK SQUARExEvSEVENwIXvTHREEwWOrURTEENpNINETEENpSEVENTEENvY ON BLACK SQUAREqIXTEEN",
   "tY ON BLACK SQUAREpTENs ON BLACK SQUAREqHIRTEENuYv EIGHTwFIVExOURwNINEwON BLACK SQUAREyEwSEVEN",
   "xIXwTHREExWOqWELVEsNTYv EIGHTwFIVExOURwNINEwON BLACK SQUAREyEwSEVENxIXwTHREExWO",
   "iOPEN CENTRE EIGHT POINTED STARiPARALLELjERPENDICULARjLUSjOSTAL MARKiREVERSE SOLIDUS",
   "jING OPERATORiSQUAREiTIMESjRIANGLEq DOWNiVERTICAL BARiWHITE BULLEToSTARjZiXiZERO WITH SLASH",
   "eULATION FUNCTIONfMFLEX ACCENTfS TENTcTYSCAPEj AT DUSKbJK COMPATIBILITY IDEOGRAPH-2F800zh1zh2",
   "zh3zh4zh5zh6zh7zh8zh9zhAzhBzhCzhDzhEzhFzg10zh1zh2zh3zh4zh5zh6zh7zh8zh9zhAzhBzhCzhDzhEzhFzg20",
   "zh1zh2zh3zh4zh5zh6zh7zh8zh9zhAzhBzhCzhDzhEzhFzg30zh1zh2zh3zh4zh5zh6zh7zh8zh9zhAzhBzhCzhDzhEzhF",
   "zg40zh1zh2zh3zh4zh5zh6zh7zh8zh9zhAzhBzhCzhDzhEzhFzg50zh1zh2zh3zh4zh5zh6zh7zh8zh9zhAzhBzhCzhD",
   "zhEzhFzg60zh1zh2zh3zh4zh5zh6zh7zh8zh9zhAzhBzhCzhDzhEzhFzg70zh1zh2zh3zh4zh5zh6zh7zh8zh9zhAzhB",
   "zhCzhDzhEzhFzg80zh1zh2zh3zh4zh5zh6zh7zh8zh9zhAzhBzhCzhDzhEzhFzg90zh1zh2zh3zh4zh5zh6zh7zh8zh9",
   "zhAzhBzhCzhDzhEzhFzgA0zh1zh2zh3zh4zh5zh6zh7zh8zh9zhAzhBzhCzhDzhEzhFzgB0zh1zh2zh3zh4zh5zh6zh7",
   "zh8zh9zhAzhBzhCzhDzhEzhFzgC0zh1zh2zh3zh4zh5zh6zh7zh8zh9zhAzhBzhCzhDzhEzhFzgD0zh1zh2zh3zh4zh5",
   "zh6zh7zh8zh9zhAzhBzhCzhDzhEzhFzgE0zh1zh2zh3zh4zh5zh6zh7zh8zh9zhAzhBzhCzhDzhEzhFzgF0zh1zh2zh3",
   "zh4zh5zh6zh7zh8zh9zhAzhBzhCzhDzhEzhFzf900zh1zh2zh3zh4zh5zh6zh7zh8zh9zhAzhBzhCzhDzhEzhFzg10zh1",
   "zh2zh3zh4zh5zh6zh7zh8zh9zhAzhBzhCzhDzhEzhFzg20zh1zh2zh3zh4zh5zh6zh7zh8zh9zhAzhBzhCzhDzhEzhF",
   "zg30zh1zh2zh3zh4zh5zh6zh7zh8zh9zhAzhBzhCzhDzhEzhFzg40zh1zh2zh3zh4zh5zh6zh7zh8zh9zhAzhBzhCzhD",
   "zhEzhFzg50zh1zh2zh3zh4zh5zh6zh7zh8zh9zhAzhBzhCzhDzhEzhFzg60zh1zh2zh3zh4zh5zh6zh7zh8zh9zhAzhB",
   "zhCzhDzhEzhFzg70zh1zh2zh3zh4zh5zh6zh7zh8zh9zhAzhBzhCzhDzhEzhFzg80zh1zh2zh3zh4zh5zh6zh7zh8zh9",
   "zhAzhBzhCzhDzhEzhFzg90zh1zh2zh3zh4zh5zh6zh7zh8zh9zhAzhBzhCzhDzhEzhFzgA0zh1zh2zh3zh4zh5zh6zh7",
   "zh8zh9zhAzhBzhCzhDzhEzhFzgB0zh1zh2zh3zh4zh5zh6zh7zh8zh9zhAzhBzhCzhDzhEzhFzgC0zh1zh2zh3zh4zh5",
   "zh6zh7zh8zh9zhAzhBzhCzhDzhEzhFzgD0zh1zh2zh3zh4zh5zh6zh7zh8zh9zhAzhBzhCzhDzhEzhFzgE0zh1zh2zh3",
   "zh4zh5zh6zh7zh8zh9zhAzhBzhCzhDzhEzhFzgF0zh1zh2zh3zh4zh5zh6zh7zh8zh9zhAzhBzhCzhDzhEzhFzfA00zh1",
   "zh2zh3zh4zh5zh6zh7zh8zh9zhAzhBzhCzhDzhEzhFzg10zh1zh2zh3zh4zh5zh6zh7zh8zh9zhAzhBzhCzhDzdF900zg1",
   "zg2zg3zg4zg5zg6zg7zg8zg9zgAzgBzgCzgDzgEzgFzf10zg1zg2zg3zg4zg5zg6zg7zg8zg9zgAzgBzgCzgDzgEzgF",
   "zf20zg1zg2zg3zg4zg5zg6zg7zg8zg9zgAzgBzgCzgDzgEzgFzf30zg1zg2zg3zg4zg5zg6zg7zg8zg9zgAzgBzgCzgD",
   "zgEzgFzf40zg1zg2zg3zg4zg5zg6zg7zg8zg9zgAzgBzgCzgDzgEzgFzf50zg1zg2zg3zg4zg5zg6zg7zg8zg9zgAzgB",
   "zgCzgDzgEzgFzf60zg1zg2zg3zg4zg5zg6zg7zg8zg9zgAzgBzgCzgDzgEzgFzf70zg1zg2zg3zg4zg5zg6zg7zg8zg9",
   "zgAzgBzgCzgDzgEzgFzf80zg1zg2zg3zg4zg5zg6zg7zg8zg9zgAzgBzgCzgDzgEzgFzf90zg1zg2zg3zg4zg5zg6zg7",
   "zg8zg9zgAzgBzgCzgDzgEzgFzfA0zg1zg2zg3zg4zg5zg6zg7zg8zg9zgAzgBzgCzgDzgEzgFzfB0zg1zg2zg3zg4zg5",
   "zg6zg7zg8zg9zgAzgBzgCzgDzgEzgFzfC0zg1zg2zg3zg4zg5zg6zg7zg8zg9zgAzgBzgCzgDzgEzgFzfD0zg1zg2zg3",
   "zg4zg5zg6zg7zg8zg9zgAzgBzgCzgDzgEzgFzfE0zg1zg2zg3zg4zg5zg6zg7zg8zg9zgAzgBzgCzgDzgEzgFzfF0zg1",
   "zg2zg3zg4zg5zg6zg7zg8zg9zgAzgBzgCzgDzgEzgFzeA00zg1zg2zg3zg4zg5zg6zg7zg8zg9zgAzgBzgCzgDzgEzgF",
   "zf10zg1zg2zg3zg4zg5zg6zg7zg8zg9zgAzgBzgCzgDzgEzgFzf20zg1zg2zg3zg4zg5zg6zg7zg8zg9zgAzgBzgCzgD",
   "zgEzgFzf30zg1zg2zg3zg4zg5zg6zg7zg8zg9zgAzgBzgCzgDzgEzgFzf40zg1zg2zg3zg4zg5zg6zg7zg8zg9zgAzgB",
   "zgCzgDzgEzgFzf50zg1zg2zg3zg4zg5zg6zg7zg8zg9zgAzgBzgCzgDzgEzgFzf60zg1zg2zg3zg4zg5zg6zg7zg8zg9",
   "zgAzgBzgCzgDzf70zg1zg2zg3zg4zg5zg6zg7zg8zg9zgAzgBzgCzgDzgEzgFzf80zg1zg2zg3zg4zg5zg6zg7zg8zg9",
   "zgAzgBzgCzgDzgEzgFzf90zg1zg2zg3zg4zg5zg6zg7zg8zg9zgAzgBzgCzgDzgEzgFzfA0zg1zg2zg3zg4zg5zg6zg7",
   "zg8zg9zgAzgBzgCzgDzgEzgFzfB0zg1zg2zg3zg4zg5zg6zg7zg8zg9zgAzgBzgCzgDzgEzgFzfC0zg1zg2zg3zg4zg5",
   "zg6zg7zg8zg9zgAzgBzgCzgDzgEzgFzfD0zg1zg2zg3zg4zg5zg6zg7zg8zg9eRADICAL BAMBOOnLUEnOLT OF CLOTH",
   "oNEoXnRUSH ONEsTWOmC-SIMPLIFIED BIRDzCARTzDRAGONzEATzbVENzFISHzbLYzbROGzGATEzbOLDzHORSEzLEAF",
   "zbONGzSALTzbEEzbHELLzbILKzbPEECHzTANNED LEATHERzbOOTHzbURTLEzWINDnHOKEnITYoVILIANnLIFFoOTHES",
   "nOWmDEATHnIVINATIONnOGmEAT ONEqTHREErWOnWEnYEmFIREnOOTmGHOSTnRASS ONEsTHREEtWOmHANDnEADpRT ONE",
   "sTWOnORNmJ-SIMPLIFIED DRAGONzEVENzTOOTHzbURTLEnADEmKNIFE ONEsTWOmLAME FOURrONErTHREEsWO",
   "nONG ONErTWOmMEAToSHnOONoRTARoTHERoUND ONEsTWOmNET FOURqONEqTHREErWOmOLDmPAW ONEqTWOnERSON",
   "mRAINoMoPnEPEATmSEALoCOND ONEtTHREEuWOnHEEPnILKoMPLIFIED HALF TREE TRUNKyORNxWALKyHEATxYELLOW",
   "nMALL ONEsTWOnNAKEoOUT ONEsTWOnPIRIT ONEtTWOnUNmTABLEnHREADnIGERnURTLEmWALK ONErTWOoTER ONE",
   "sTWOnEST ONErTWOeSTROKE BXGlDlHmGmPnWGmXWGmZnGnTnWoGnZoPoZpGlNlPmDmGmZlQlSmGmPmTmWnGnZmZnWGnZ",
   "lTmNlWGlXGbLAMSHELL MOBILE PHONEdPPER BOARDfING HANDS SIGNdSSICAL BUILDINGcEAR SCREEN SYMBOL",
   "cINKING BEER MUGSjGLASSESdPBOARDcOCK FACE EIGHT OCLOCKq-THIRTYmLEVEN OCLOCKr-THIRTY",
   "lFIVE OCLOCKp-THIRTYmOUR OCLOCKp-THIRTYlNINE OCLOCKp-THIRTYlONE OCLOCKo-THIRTYlSEVEN OCLOCK",
   "q-THIRTYmIX OCLOCKo-THIRTYlTEN OCLOCKo-THIRTYmHREE OCLOCKq-THIRTYmWELVE OCLOCKr-THIRTY",
   "nO OCLOCKo-THIRTYfWISE CLOSED CIRCLE ARROWlONTOUR INTEGRAL",
   "kDOWNWARDS AND UPWARDS OPEN CIRCLE ARROWSkGAPPED CIRCLE ARROWkINTEGRALkOPEN CIRCLE ARROW",
   "kRIGHT AND LEFT SEMICIRCLE ARROWSpWARDS AND LEFTWARDS OPEN CIRCLE ARROWS",
   "zzd WITH CIRCLED ONE OVERLAYkTOP SEMICIRCLE ARROWlRIANGLE-HEADED OPEN CIRCLE ARROWdSE UP",
   "fD BOOKhINTERSECTION WITH SERIFShLOCK WITH KEYhMAILBOX WITH LOWERED FLAGuRAISED FLAGhSUBSET",
   "n OR EQUAL TOjPERSETp OR EQUAL TOhUMBRELLAiNION WITH SERIFSy AND SMASH PRODUCTdUD",
   "f WITH LIGHTNINGlRAINlSNOWlTORNADOdWN FACEbOATcCKROACHeTAIL GLASSdONUTcFFINcINcLLISION SYMBOL",
   "dONf EQUALSgSIGNcMBINING ACUTE ACCENTw BELOWqTONE MARKp-GRAVE-ACUTEqMACRON",
   "lLMOST EQUAL TO ABOVEzbBELOWlNNUITY SYMBOLmTICLOCKWISE ARROW ABOVEyRING OVERLAYlSTERISK ABOVE",
   "tBELOWkBINDU BELOWlREVEp BELOWp-MACRONmIDGE ABOVErBELOWkCANDRABINDUmRONp BELOWlEDILLA",
   "lIRCUMFLEX ACCENTzc BELOWlLOCKWISE ARROW ABOVEuRING OVERLAYlOMMA ABOVEv RIGHTqBELOW",
   "mNJOINING MACRONzc BELOWlYRILLIC DASIA PNEUMATAtHUNDRED MILLIONS SIGNzcTHOUSANDS SIGNtKAVYKA",
   "tLETTER AzbBEzcIG YUSzbCHEzbDEzcJERVzbEFzcLzcMzcNzcRzcSzd-TEzbFITAzbGHEzbHAzdRD SIGNzbIzcE",
   "zcOTIFIED AzkBIG YUSzkEzbKAzbLITTLE YUSzbMONOGRAPH UKzbOzcMEGAzbPEzbSHAzdCHAzcOFT SIGNzbTEzcSE",
   "zbUzcKRAINIAN IEzbVEzbYATzcERUzcIzcUzbZEzcHEtMILLIONS SIGNtPALATALIZATIONvYEROKuOKRYTIE",
   "uSILI PNEUMATAtTEN MILLIONS SIGNuHOUSAND MILLIONS SIGNuITLOy LEFT HALFzRIGHT HALFtVZMET",
   "kDELETION MARKmVANAGARI DIGIT EIGHTzcFIVEzdOURzcNINEzcONEzcSEVENzdIXzcTHREEzdWOzcZEROvLETTER A",
   "zdKAzdNAzdPAzdRAzdUzdVIvSIGN AVAGRAHAlIAERESISt BELOWt-RINGlOT ABOVEt LEFTuRIGHToBELOWt LEFT",
   "nTED ACUTE ACCENTrGRAVE ACCENTmUBLE ACUTE ACCENTrBREVEw BELOWrCIRCUMFLEX ABOVErGRAVE ACCENT",
   "rINVERTED BREVEzg BELOWrLOW LINErMACRONx BELOWrOPEN MARK BELOWsVERLINErPARENTHESES ABOVE",
   "sLUS SIGN ABOVEzcBELOWrRIGHTWARDS ARROW BELOWtNG BELOWrTILDEw LEFT HALFxRIGHT HALF",
   "rVERTICAL LINE ABOVEzgBELOWzbSTROKE OVERLAYqD CIRCUMFLEX ACCENTmWN TACK BELOWoWARDS ARROW",
   "kENCLOSING CIRCLEzb BACKSLASHuDIAMONDuKEYCAPuSCREENvQUAREuUPWARD POINTING TRIANGLE",
   "lQUALS SIGN BELOWkFERMATAlOUR DOTS ABOVEkGLAGOLITIC LETTER AZUzdBIG YUSzeUKYzdCHRIVIzdDJERVI",
   "zeOBROzdFITAzeRITUzdGLAGOLIzdHERUzdIzeNITIAL IZHEzeOTATED BIG YUSzlSMALL YUSzeZHEzdKAKO",
   "zdLJUDIJEzdMYSLITEzdNASHIzdONUzdPOKOJIzdRITSIzdSHAzfTAzeLOVOzeMALL YUSzdTSIzeVRIDOzdUKUzdVEDE",
   "zdYATIzeERIzgUzfSTUzeOzeUzdZEMLJAzeHIVETElRANTHA DIGIT FIVEzOURyONEySIXyTHREEzWOyZEROsLETTER A",
   "zKAzNAzPAzVInPHEME JOINERnVE ACCENTw BELOWqTONE MARKp-ACUTE-GRAVEqMACRONmEEK DIALYTIKA TONOS",
   "qKORONISqMUSICAL PENTASEMEyTETRASEMEzRISEMEqPERISPOMENIqYPOGEGRAMMENIkHOMOTHETIC ABOVE",
   "mOK ABOVEmRNkINFINITYmVERTED BREVEy BELOWvIDGE BELOWtDOUBLE ARCH ABOVEzgBELOWlS BELOW",
   "kKATAKANA-HIRAGANA SEMI-VOICED SOUND MARKzdVOICED SOUND MARKmVYKA ABOVE LEFTxRIGHT",
   "kLATIN LETTER SMALL CAPITAL GzmLzmMzmNzmRqSMALL LETTER Azf WITH DIAERESISzfEzfLPHAzfOzfVzeB",
   "zfETAzeCzf CEDILLAzeDzeEzfSHzfTHzeFzfLATTENED OPEN A ABOVEzeGzeHzeIzfNSULAR DzmGzmRzmTzeKzeL",
   "zf WITH DOUBLE MIDDLE TILDEzfONG SzeMzeNzeOzf WITH DIAERESISzlLIGHT CENTRALIZATION STROKEzeP",
   "zeRzf BELOWzgROTUNDAzeSzfCHWAzeTzfURNED W BELOWzeUzf WITH DIAERESIS",
   "zlLIGHT CENTRALIZATION STROKEzeVzeWzf BELOWzeXzeZlEFT ANGLE ABOVEvBELOWqRROW ABOVEvBELOW",
   "uHEAD ABOVEzBELOWpHALF RING ABOVEzBELOWrRPOON ABOVEpPARENTHESIS ABOVE LEFTzcBELOW LEFT",
   "pRIGHT ARROW ABOVEzcBELOWpTACK BELOWoWARDS ARROW OVERLAYuHARPOON WITH BARB DOWNWARDS",
   "lIGATURE LEFT HALFzd BELOWtRIGHT HALFze BELOWnHT CENTRALIZATION STROKE BELOW",
   "lONG DOUBLE SOLIDUS OVERLAYpSOLIDUS OVERLAYqTROKE OVERLAYpVERTICAL LINE OVERLAYmW LINEkMACRON",
   "q BELOWrLEFT HALFzb BELOWrRIGHT HALFzc BELOWq-ACUTErBREVErGRAVElINUS SIGN BELOW",
   "kNOT TILDE ABOVElUMBER SIGN ABOVEkOGONEKq ABOVElLD PERMIC LETTER ANzdDOIzdNENOEzdSIIzdZATA",
   "lPEN MARK BELOWlVERLINEkPALATALIZED HOOK BELOWmRENTHESES ABOVEwBELOWwOVERLAYlLUS SIGN ABOVE",
   "uBELOWkRETROFLEX HOOK BELOWmVERSE SOLIDUS OVERLAYrD COMMA ABOVElIGHT ARROW ABOVEwBELOW",
   "vHEAD ABOVEzcND DOWN ARROWHEAD BELOWzfUP ARROWHEAD BELOWzbBELOWqHALF RING ABOVEzbBELOW",
   "sRPOON ABOVEqPARENTHESIS ABOVE RIGHTzdBELOW RIGHTqTACK BELOWpWARDS HARPOON WITH BARB DOWNWARDS",
   "mNG ABOVEpBELOWpOVERLAYkSEAGULL BELOWlHORT SOLIDUS OVERLAYrTROKE OVERLAYqVERTICAL LINE OVERLAY",
   "lNAKE BELOWlQUARE BELOWsRACKETS ABOVElTRONG CENTRALIZATION STROKE BELOWlUSPENSION MARK",
   "kTHREE DOTS ABOVElILDEp BELOWqLEFT HALF BELOWqOVERLAYqRIGHT HALF BELOWlRIPLE ACUTE ACCENTrDOT",
   "rUNDERDOTlURNED COMMA ABOVEkUP TACK ABOVEsBELOWmWARDS ARROW BELOWlR ABOVElS ABOVE",
   "kVERTICAL LINE ABOVEyBELOWtTILDEkWIDE BRIDGE ABOVEpINVERTED BRIDGE BELOWmGGLY LINE BELOW",
   "kX ABOVEmBELOWl-X BELOWkZIGZAG ABOVErBELOWdETdMAeERCIAL ATlMINUS SIGNdPASSeLEMENT",
   "eOSITION SYMBOLeRESSIONcNFETTI BALLeOUNDED FACEeUSED FACEdGRUENT WITH DOT ABOVEdICAL TAPER",
   "dJUNCTIONdSTRUCTION SIGNnWORKERdTAINS AS MEMBERmNORMAL SUBGROUPzc OR EQUAL TO",
   "jWITH LONG HORIZONTAL STROKEoOVERBARoVERTICAL BAR AT END OF HORIZONTAL STROKE",
   "eINUOUS UNDERLINE SYMBOLeOUR INTEGRALeROL KNOBSiSEQUENCE INTRODUCERdVENIENCE STOREcOKED RICE",
   "eIEfNGcPTIC CAPITAL LETTER AKHMIMIC KHEIxLFAwBOHAIRIC KHEIwCROSSED SHEIyYPTOGRAMMIC EIE",
   "zlGANGIAzlNIzlSHEIwDALDAxEIxIALECT-P ALEFzhHORIzhKAPAzhNIwEIEwFEIxIwGAMMAyNGIAwHATExORIwIAUDA",
   "wKAPAxHEIyIxSIwL-SHAPED HAxAULAwMIwNIwOxLD COPTIC AINziDJAziESHziGANGIAziHAzkTzjEIzjORIziOOU",
   "ziSHEIzkIMAzbNUBIAN NGIzjYIziSHIMAziWAUxOUwPIxSIwROwSAMPIxHEIyIMAxIMAxOUwTAUxHETHEwUAwVIDA",
   "wZATAiOMBINING NI ABOVErSPIRITUS ASPERzbLENIShEPACT DIGIT EIGHTtFIVEuOURtNINEtONEtSEVENuIX",
   "tTHREEuWOnNUMBER EIGHT HUNDREDzYuFIFTYwVE HUNDREDvORTYwUR HUNDREDuNINE HUNDREDyTYuONE HUNDRED",
   "uSEVEN HUNDREDzTYvIX HUNDREDxTYuTENvHIRTYwREE HUNDREDvWENTYwO HUNDREDnTHOUSANDS MARK",
   "hFRACTION ONE HALFiULL STOPhMORPHOLOGICAL DIVIDERhOLD NUBIAN DIRECT QUESTION MARKsFULL STOP",
   "sINDIRECT QUESTION MARKsVERSE DIVIDERhSMALL LETTER AKHMIMIC KHEIvLFAuBOHAIRIC KHEI",
   "uCROSSED SHEIwYPTOGRAMMIC EIEzjGANGIAzjNIzjSHEIuDALDAvEIvIALECT-P ALEFzfHORIzfKAPAzfNIuEIEuFEI",
   "vIuGAMMAwNGIAuHATEvORIuIAUDAuKAPAvHEIwIvSIuL-SHAPED HAvAULAuMIuNIuOvLD COPTIC AINzgDJAzgESH",
   "zgGANGIAzgHAziTzhEIzhORIzgOOUzgSHEIziIMAyNUBIAN NGIzhYIzgSHIMAzgWAUvOUuPIvSIuROuSAMPIvHEIwIMA",
   "vIMAvOUuTAUvHETHEuUAuVIDAuZATAiYMBOL KAIpHI ROoMI ROoPI ROoSHIMA SIMApTAUROSoTAU RO",
   "dYLEFT SYMBOLeRIGHT SIGNcRALdNISH VERSE DIVIDERdRESPONDS TOcUCH AND LAMPdNTERBOREhSINK",
   "fING ROD TENS DIGIT EIGHTyFIVEzOURyNINEyONEySEVENzIXyTHREEzWOnUNIT DIGIT EIGHTyFIVEzOURyNINE",
   "yONEySEVENzIXyTHREEzWOdPLE WITH HEARTcWd FACEbRcABcEDIT CARDdSCENT MOONcICKETh BAT AND BALL",
   "cOCODILEdISSANTdSS MARKgOF JERUSALEMjLORRAINEgPATTY WITH LEFT CROSSBARrRIGHT CROSSBARhOMMEE",
   "m WITH HALF-CIRCLE BELOWfED FLAGSiNEGATIVE SQUARED LATIN CAPITAL LETTER PiSWORDSfING LANESdWN",
   "cUTCHdZEIRO SIGNcYING CAT FACEhFACEdSTAL BALLbSIbUBE ROOTcCUMBER",
   "cNEIFORM NUMERIC SIGN EIGHT ASHzeDISHzeGESH2zeSHAR2zeUzf VARIANT FORMzeVARIANT FORM USSUzv3",
   "yLAMITE FIFTYzhORTYzgONE THIRDzgTWO THIRDSxFIVE ASHzg TENUzdBAN2zh VARIANT FORMzeURUzdDISH",
   "zdGESH2zhUzdSHAR2zhUzeIXTHS DISHzdUze VARIANT FORMyOUR ASHzg TENUzdBAN2zh VARIANT FORMzeURU",
   "zdDISHzdGESH2zhUzdSHAR2zhUzdUze VARIANT FORMzdVARIANT FORM LIMMUzv AzwBzv4xNIGIDAESHzeMIN",
   "zNE ASHzdDISHzdGESH2zdSHAR2zdUze VARIANT FORMzdVARIANT FORM ILIMMUzw Azw3zw4",
   "xOLD ASSYRIAN ONE QUARTERzpSIXTHyNE BAN2zdURUzcEIGHTH ASHzdSHE3zcGESH2zgUzcHALF GUR",
   "zcQUARTER ASHzkGURzcSHARUzcTHIRD DISHziVARIANT FORM AxSEVEN ASHzeDISHzeGESH2zeSHAR2zeU",
   "zf VARIANT FORMzeVARIANT FORM IMIN AzwBzv3yHAR2 TIMES GAL PLUS DISHztMINyIX ASHzf TENUzcDISH",
   "zcGESH2zcSHAR2zcUzd VARIANT FORMzcVARIANT FORM ASH9xTHREE ASHzh TENUzeBAN2zfURUzi VARIANT FORM",
   "zeDISHzeGESH2ziUzeSHAR2zj VARIANT FORMziUzj VARIANT FORMzeVARIANT FORM ESH16zu21yWO ASHzf TENU",
   "zcBAN2zdURUzcESHE3zcGESH2zgUzcSHAR2zgUzcTHIRDS DISHzjVARIANT FORM A",
   "kPUNCTUATION SIGN DIAGONAL COLONzlQUADCOLONzlTRICOLONzcOLD ASSYRIAN WORD DIVIDER",
   "zcVERTICAL COLONkSIGN Aq TIMES AxBADxGAN2 TENUxHAxIGIxLAGAR GUNUxMUSHxSAGq2qBr GUNUsTIMES ASH2",
   "yDUN3 GUNUyGALzbN2 TENUyHAyIGI GUNUzMINyLAGAByNUNzc TENUySHESHzbU2yU PLUS U PLUS Ur2s TIMES A",
   "zBALAGzGAN2 TENUzME PLUS ENzSHA3zTAK4qDr TIMES ESH2qKr TIMES ERIN2ySHITA PLUS GISHqLr TIMES AL",
   "yDIM2yGISHyHAyKAD3zIySHEyUSHrANrEPHqMARt TIMES KUGzbSHEqNr OVER AN",
   "sPLUS NAGA OPPOSING AN PLUS NAGAzdSQUAREDsTHREE TIMESrSHEqPINqRADt TIMES KURrKABqSAL2rH",
   "s KABA TENUtOVER ASH OVER ASHzl CROSSING ASH OVER ASH OVER ASH",
   "zdTUG2 OVER TUG2 TUG2 OVER TUG2 PAPtZIDA TENUs2sGABpBArDs TIMES DISH TENUrG3rHAR2v TIMES AB2",
   "zdNIzdZArLs OVER BALsAGrRsA2qIr TIMES AyGARyIGI GUNUqUr CROSSING BUsOVER BU ABzbTIMES NA2zbUN",
   "rLUGu OVER BULUGrRs2pDAr TIMES TAK4rGs KISIM5 TIMES A PLUS MASHziMARzhBALAGziIzhGAzj PLUS MASH",
   "ziIzjR2ziUDzhHAzhIRzj PLUS LUzhKAKzhLAziUzj PLUS MASH2zjMzhNEzhPAP PLUS PAPzhSIzhTAK4",
   "zhU2 PLUS GIR2zpMASHziSHtTIMES KURs3rMrRsA3t4qIrBrMs TIMES IGIzSHEzU U Us2t TIMES UDrN",
   "s KASKAL U GUNU DISHrSHt PLUS SHUqUr GUNUsOVER DUsSHESHIGrBs TIMES ESH2zSHEs2rGs TIMES ANSHE",
   "zbSHzd AT LEFTzDINzbUNzERIN2zGAzbIzcR2 GUNUzcSHzHAzbIzIGI GUNUzKASKALzbURzcSHU2zg PLUS KASKAL",
   "zLAK-020zcMzd TIMES KURzbUH PLUS GISHzMASHzbESzbIzNIzPIzSHEzbI GUNUsUDrHrNs3t GUNUy GUNUs4rR2",
   "pEq OVER E NUN OVER NUNrTIMES PAPq2r TIMES A PLUS HA PLUS DAyGARyKURyMIyPAPySALzHEyUqDINqGIRqL",
   "qNr CROSSING ENsOPPOSING ENsSQUAREDsTIMES GAN2zd TENUyMEqRENrIN2u XqSH2t CROSSING ESH2qZEN",
   "t SHESHIG TIMES ASHzjHIzjIGI GUNUzjLAzlLzjMEzlSzjSUuTIMES Azc PLUS LALzl TIMES LALzcNzbBAD",
   "zbDUN3 GUNUzk GUNUzbGUDzbHAzd GUNUzbIGI GUNUzbKASKALzh SQUAREDzcU3zbLAzdL TIMES LALzcIzcUzbSHE",
   "zcUzbU2zcDpGAr GUNUr2s OVER GA2tTIMES A PLUS DA PLUS HAzhHAzhIGIzbB2 TENU PLUS TABzbN",
   "zc PLUS KAK PLUS AzbSHzd2ze PLUS GALzBADzcHAR2zcR PLUS RAzbURzd PLUS RAzDAzbIzcM GUNU",
   "zeTIMES SHEzbUBzcG TIMES IGI GUNUzkKASKALzELzc PLUS LAzbNzc TIMES GAN2 TENUzbRENzGAzcN2 TENU",
   "zcRzd PLUS DIzjNEzbIzc4zd PLUS AzcR2 PLUS SUzHA PLUS AziLU PLUS ESH2zcLzd PLUS LAzbI PLUS LI",
   "zbUB2zIGI GUNUzbSH PLUS HU PLUS ASHzKAKzcSKALzbIDzd PLUS LALzbU3 PLUS ANzcSHU2 PLUS KASKALzLA",
   "zcMzd TIMES KURzbUHzME PLUS ENzbIzbUSHzNEzc PLUS E2ziGIzbUNzd OVER NUNzPAzSALzcRzbHE",
   "zd PLUS TURzcIDzdMzbUMzTAK4zUzbDzc PLUS DUzZIZ2rBAt CROSSING GABAuROTATED NINETY DEGREESrD",
   "s OVER GAD GAR OVER GARrLs GAD OVER GAD GAR OVER GARsAMrMrNs2t CROSSING GAN2uOVER GAN2uTENUrR",
   "s3rSHANqE22rSHTINw TIMES KURzeUqIr CROSSING GIsTIMES EyUr4s CROSSING GI4tOVER GI4rDIMrGrR2",
   "t GUNUs3t TIMES A PLUS IGIzbGAN2 TENUzbIGIzbLU PLUS IGIzbPArSALsHt CROSSING GISHuTENUvIMES BAD",
   "zbGISH CROSSING GISHzbTAK4qUr CROSSING GUr2s GUNUtTIMES IGI GUNUzKAKzd TIMES IGI GUNUzNUN",
   "zSAL PLUS TUG2rDs OVER GUD LUGALtPLUS GISH TIMES TAK4tTIMES A PLUS KURzKURrLrMs TIMES SHErRs7",
   "sUNtSHpHAr GUNUsTENUw GUNUrLqIr TIMES ASHzc OVER HI TIMES ASHzc2yBADyDISHyGADyKINyNUNySHEyUqU",
   "rB2t TIMES ANzbHALzbKASKALzbLISHzbUDrL2rSHpIq AqBqDIMt OVER IDIM BURzfSQUAREDqGrIs DIBtGUNU",
   "tOVER IGI SHIR OVER SHIR UD OVER UDtRIqLr TIMES GAN2 TENUr2qMr CROSSING IMsOPPOSING IMsSQUARED",
   "sTIMES TAK4rINqNqRqSHpKAr TIMES AzDzb PLUS KU3zNSHEzSH2zc3yBADzbLAGzbRzIzUyERIN2zSH2yGAzbL",
   "zbN2 TENUzbRzc PLUS SHA3 PLUS AzIzbR2zbSHzd CROSSING GISHzePLUS SARzUzbDzbR7yHI TIMES ASH2yIGI",
   "zMyKAzbKzIzbDyLIzUzbMyMEzb PLUS DUzhGIzhTEzIzb PLUS NUNUZyNEzUNyPAzIyRUySAzbRzHAzbEzbIDzbUzcL",
   "zIGzUHURyTARzUyUz U Uz2zDzMUM TIMES PAzRzb2zSHyZIr2s CROSSING KA2rBrD2s3s4s5t OVER KAD5rK",
   "s TIMES IGI GUNUrLs CROSSING KALtTIMES BADrM2s4rP ELAMITErSKAL",
   "v LAGAB TIMES U OVER LAGAB TIMES UwOVER KASKAL LAGAB TIMES U OVER LAGAB TIMES UqESH2qI",
   "r TIMES BADyUzDrDrNrSALsHsIM5v OVER KISIM5qUr OVER HI TIMES ASH2 KU OVER HI TIMES ASH2r3r4",
   "s VARIANT FORMr7rLs GUNUrNrRs OPPOSING KURrSHU2qWU318pLArGABu SQUAREDvTIMES A",
   "zd PLUS DA PLUS HAzjGARzjLALzdLzdNzdSH ZIDA TENUzcBADzdIzcDARzcENzcGAzeRzdIzdUDzf PLUS GUDzcHA",
   "zeLzdI TIMES NUNzcIGI GUNUzdMze PLUS HAzkLUzcKIzeNzdU3zeLzf PLUS HI PLUS AzcLAGABzdISHzdUzeL",
   "zcMEze PLUS ENzdUSHzcNEzcSHE PLUS SUMzeITA PLUS GISH PLUS ERIN2zsTENUzeU2zg PLUS SHU2zdUMzcTAG",
   "zeK4zdE PLUS A PLUS SU PLUS NAzcUzd PLUS AzjU PLUS Uzd2 PLUS ASHzdDzdSHzcZU OVER ZUtRu GUNU",
   "z OVER LAGAR GUNU SHEvTIMES SHEzf PLUS SUMrHSHUrK-003u21v5u30u50v1u62u79 OVER LAK-079 GUNUu80",
   "v1 OVER LAK-081u92t130u42t210v9u20v5v8u38u65v6t343v7v8u83v4u90t441v9w TIMES GUzeIGI",
   "zePAP PLUS LU3znPAP PLUS LU3zeU2 PLUS BAu50v7u70u83u90v2v3v5t550t608u17w TIMES ASHzeBAD",
   "zeDUN3 GUNU GUNUzeKU3zeLAzeTARzfEzeU2zfDzfRUDAu36u48w TIMES DUBzeGAzeIGIzh GUNUzeNI",
   "zePAP PLUS PAP PLUS LU3zeSHESH PLUS KIzeUDzfRUDAt724u49rLs TIMES LALrMs TIMES KURzd PLUS RUqI",
   "rLrMMU2rSHqUr TIMES BADr2s CROSSING LU2tGUNU TIMES ASHtOPPOSING LU2tSHESHIGzb TIMES BADuQUARED",
   "tTENUuIMES ALzBADzDISHzESH2ze PLUS LALzfTENUzGAN2 TENUzHALzbI TIMES BADzIMzKAD2zd3ze PLUS ASH",
   "zbIzLA PLUS ASHzcGABzME PLUS ENzNEzbUzPAPzd PLUS PAP PLUS LU3zSHUzbI PLUS ASHzcK2 PLUS BUzTAK4",
   "zbUG2r3rGALu OPPOSING LUGALwVER LUGALvSHESHIGrHrLrMs OVER LUMzc GAR OVER GARpMAr GUNU",
   "sTIMES TAK4r2rHrRrSHt2qErSsHqIr PLUS ZA7rNqUr OVER MUrGs GUNUrNSUBrRGU2rSHt CROSSING MUSH",
   "uOVER MUSHze TIMES A PLUS NAzlGAzlKAKuTIMES AzbKURzbZAt3u GUNUvTIMES Azd PLUS DIzcDIzcZApNAr2",
   "r4rGAt INVERTEDuOPPOSING NAGAuTIMES SHU TENUtRrMs NUTILLUs2qEr SHESHIGsTIMES AyUDqIr TIMES Er2",
   "rMs TIMES GAN2 TENUzcR PLUS GAN2 TENUrNs9sDA2v TIMES ANzeSHzg PLUS ASHzdBALzdDIM GUNUzdGIzfSH",
   "zeUDzfLzdHIzdKESH2zdLAK-050zdMASHzeE PLUS GAN2 TENUzdNEzeUNzdPAP PLUS PAPzdSHEzg PLUS A ANznSH",
   "zp PLUS ASHzdUze PLUS Uze2 PLUS ASHzeRUDAzeSHrSAGqUr11t OVER NU11 BUR OVER BUR",
   "uROTATED NINETY DEGREESuTENUrNs CROSSING NUNzg LAGAR OVER LAGARtLAGAR TIMES GARzgMASHzgSAL",
   "zj OVER NUN LAGAR TIMES SALzgUSHtOVER NUNtTENUsUZu AB2 TIMES ASHGABzgBIzgDUGzgGUDzgIGI GUNU",
   "zgKAD3zgLAzgNEzgSILA3zgU2vKISIM5 TIMES BIzl UpPArDrNrPqESH2u ASTERISKqIr CROSSING PIsTIMES AzB",
   "yBIzUyEyIzByUz2rR2sIGu OPPOSING PIRIGvTIMES KALzcUDzcZApRArBqIqUpSArGs GUNUx TIMES HAtNUTILLU",
   "tOVER SAGtTIMES AzDUzcBzENzHAzIGI GUNUzKAKzbURzLUMzMIzNUNzSALzbHE AT LEFTzcIDzTABzcK4zU2zbBzbM",
   "zbRzbSHrLs LAGAB TIMES ASH2rNGA2rRqHAs3t TIMES AzbBADzbGISHzbNEzbSHU2zbTURzbUzc PLUS As6t TENU",
   "sB6sR2rEs HUtOVER SHEzc GAD OVER GAD GAR OVER GARzdTAB OVER TAB GAR OVER GARtPLUS HUB2yNAM2",
   "ySARsG9sNsSHu2uLAMrIDt TIMES AzbIMsMt TIMES AzbBALzcULUGzbDINzbGARzbIGIze GUNUzbKUSHU2zbLUL",
   "zbMUGzbSALsNIGsRt OVER SHIR BUR OVER BURuTENUsTArUs OVER INVERTED SHUs2t PLUS DUG TIMES NI",
   "zE2 TIMES ANsBURqIr GUNUsTIMES TAK4rGs4t OVER SIG4 SHU2rK2rLA3qUr OVER SUrDs2rHURrMsASHrRs9pTA",
   "r ASTERISKsGUNUsTIMES HIyMIrBs OVER TAB NI OVER NI DISH OVER DISHtSQUAREDrGs TIMES BIzGUDzSHE",
   "zcUzTUG2zUDrK4t PLUS SAGrRqEr GUNUqIr TENUr2rLrRs OVER TIRzc GAD OVER GAD GAR OVER GAR",
   "tTIMES TAK4qUrG2rKrMs TIMES GAN2 TENUzTHREE DISHrRs OVER TUR ZA OVER ZApUq GUD",
   "rOVER U PA OVER PA GAR OVER GARySUR OVER SURyU REVERSED OVER U REVERSEDrUs Uq2qBqDr GUNU",
   "sKUSHU2sSHESHIGz TIMES BADsTIMES BADyMIyU PLUS U PLUS Uzo GUNUrUGqMr TIMES LAGAByMEzb PLUS DA",
   "ySHA3yUrBINrUMt TIMES KASKALzbPAqNr GUNUqRr CROSSING URsSHESHIGr2s INVERTEDtTIMES A PLUS HA",
   "zhNAzbLzHAzNUNzU2zc PLUS ASHziBIzbDr4rIs3rUs TIMES AzbSHGABzBARzDARA3zbUNzGAzcLzcN2 TENUzcRzbU",
   "zHAzIGIzbMzbSHzKIzLAK-668zbU3zcMzMINzPAzSHEzbIG4zTUzU PLUS GUDzbDzbRUDAsDAu TIMES UqSH",
   "s TIMES AzKUzcRzTAK4s2sUMXsXqTUKIqZ3s TIMES KASKALrUpZAr SQUARED TIMES KURsTENUr7rGrMXqE2qI",
   "r OVER ZIr3rBs KABA TENUrGrZ2qUr OVER ZU PLUS SARr5s TIMES AzTHREE DISH TENUrBURrM",
   "cP ON BLACK SQUAREeWITH STRAWdCAKEdIDOcRLING STONEeY BRACKET EXTENSIONgLOGICAL ANDoORiOP",
   "dRENCY EXCHANGEjSIGNeY AND RICEdVED STEM PARAGRAPH SIGN ORNAMENTcSTARDeOMScT OF MEATbYCLONE",
   "cLINDRICITYcPRIOT SYLLABLE ArErIrJAsOrKAsEsIsOsUrLAsEsIsOsUrMAsEsIsOsUrNAsEsIsOsUrOrPAsEsIsOsU",
   "rRAsEsIsOsUrSAsEsIsOsUrTAsEsIsOsUrUrWAsEsIsOrXAsErZAsOeO-MINOAN SIGN CM001w2w4w5w6w7w8w9v10w1",
   "w2xBw3w5w7w9v21w3w4w5w6w7w8w9v30w3w4w5w6w7w8w9v40w1w4w6w7w9v50w1w2w3w4w5w6w8w9v60w1w2w3w4w6w7",
   "w8w9v70w1w2w3w4w5xBw6w8w9v80w1w2w3w4w5w6w7w8w9v90w1w2w4w5w6w7w8w9u100w1w2w3w4w5w7w8w9v10w2w4",
   "u301w2cRILLIC CAPITAL LETTER Az WITH BREVEzgDIAERESISzBKHASIAN CHEzm WITH DESCENDERzjDZEzjHA",
   "zLEUT KAyBARRED Ozh WITH DIAERESISzbSHKIR KAzEzIG YUSzbNOCULAR OzLENDED YUSzROAD OMEGA",
   "zYELORUSSIAN-UKRAINIAN IyCCHEzHEzc WITH DESCENDERzjIAERESISziVERTICAL STROKEzLOSED LITTLE YUS",
   "zROSSED OyDCHEzEzJEzcRVzOUBLE MONOCULAR OzgOzWEzZEzcLOzbHEzbWEzbZEzcHEyEz WITH DIAERESISzFzL",
   "zb WITH DESCENDERzhHOOKzhMIDDLE HOOKzhTAILzMzb WITH TAILzNzb WITH DESCENDERzhHOOKzhLEFT HOOK",
   "zhMIDDLE HOOKzhTAILzRzb WITH TICKzSzb WITH DESCENDERyFITAyGHEzc WITH DESCENDERziMIDDLE HOOK",
   "ziSTROKEzo AND HOOKziUPTURNzJEyHAzb WITH DESCENDERzhHOOKzhSTROKEzbRD SIGNzWEyIz WITH DIAERESIS",
   "zgGRAVEzgMACRONzEzb WITH BREVEzhGRAVEzOzbTAzcIFIED AziBIG YUSziCLOSED LITTLE YUSziE",
   "ziLITTLE YUSziYATzZHITSAzg WITH DOUBLE GRAVE ACCENTyJEyKAzb WITH DESCENDERzhHOOKzhSTROKE",
   "zhVERTICAL STROKEzHAKASSIAN CHEzJEzOMI DEzfJEzfZJEzeLJEzeNJEzeSJEzeTJEzeZJEzbPPAzSIyLHA",
   "zITTLE YUSzJEyMONOCULAR OzdGRAPH UKyNEUTRAL YERzJEyOz WITH DIAERESISzMEGAze WITH TITLOzTyPE",
   "zb WITH DESCENDERzhMIDDLE HOOKzSIyQAyREVERSED DZEziTSEziYUziZEzHAzOUND OMEGAySCHWA",
   "ze WITH DIAERESISzEMISOFT SIGNzHAzbCHAzbHAzd WITH DESCENDERzbORT Izg WITH TAILzfUzbWEzOFT DE",
   "zeELzfMzeSIGNzTRAIGHT Uzj WITH STROKEyTCHEzEzb WITH DESCENDERzhMIDDLE HOOKzSEzbHEzbSEzbWEzWEyU",
   "z WITH DIAERESISzhOUBLE ACUTEzgMACRONzKzbRAINIAN IEyVEyWEyYAzbEzbTzERUzd WITH BACK YER",
   "zjDIAERESISzIzNzUyZEzb WITH DESCENDERziIAERESISzbMLYAzHEzc WITH BREVEziDESCENDERzjIAERESISzbWE",
   "sIGATURE A IEzbEN GHEzbTE TSEjKAVYKAjLETTER MULTIOCULAR OqPALOCHKAqSMALL CAPITAL ELjPAYEROK",
   "jSMALL LETTER Ax WITH BREVEzeDIAERESISxBKHASIAN CHEzk WITH DESCENDERzhDZEzhHAxLEUT KAwBARRED O",
   "zf WITH DIAERESISySHKIR KAxExIG YUSyNOCULAR OxLENDED YUSxROAD OMEGAxYELORUSSIAN-UKRAINIAN I",
   "wCCHExHEz WITH DESCENDERzhIAERESISzgVERTICAL STROKExLOSED LITTLE YUSxROSSED OwDCHExExJEzRV",
   "xOUBLE MONOCULAR OzeOxWExZEzLOyHEyWEyZEzHEwEx WITH DIAERESISxFxLy WITH DESCENDERzfHOOK",
   "zfMIDDLE HOOKzfTAILxMy WITH TAILxNy WITH DESCENDERzfHOOKzfLEFT HOOKzfMIDDLE HOOKzfTAILxR",
   "y WITH TICKxSy WITH DESCENDERwFITAwGHEz WITH DESCENDERzgMIDDLE HOOKzgSTROKEzm AND HOOKzgUPTURN",
   "xJEwHAy WITH DESCENDERzfHOOKzfSTROKEyRD SIGNxWEwIx WITH DIAERESISzeGRAVEzeMACRONxEy WITH BREVE",
   "zfGRAVExOyTAzIFIED AzgBIG YUSzgCLOSED LITTLE YUSzgEzgLITTLE YUSzgYATxZHITSA",
   "ze WITH DOUBLE GRAVE ACCENTwJEwKAy WITH DESCENDERzfHOOKzfSTROKEzfVERTICAL STROKExHAKASSIAN CHE",
   "xJExOMI DEzdJEzdZJEzcLJEzcNJEzcSJEzcTJEzcZJEyPPAxSIwLHAxITTLE YUSxJExONG-LEGGED DEwMONOCULAR O",
   "zbGRAPH UKwNARROW OxEUTRAL YERxJEwOx WITH DIAERESISxMEGAzc WITH TITLOxTwPALOCHKAxE",
   "y WITH DESCENDERzfMIDDLE HOOKxSIwQAwREVERSED DZEzgTSEzgYUzgZExHAxOUND OMEGAzcED VEwSCHWA",
   "zc WITH DIAERESISxEMISOFT SIGNxHAyCHAyHAzb WITH DESCENDERyORT Ize WITH TAILzdUyWExOFT DEzcEL",
   "zdMzcSIGNxTRAIGHT Uzh WITH STROKEwTALL HARD SIGNzcTEzcYATxCHExEy WITH DESCENDERzfMIDDLE HOOK",
   "xHREE-LEGGED TExSEyHEySEyWExWEwUx WITH DIAERESISzfOUBLE ACUTEzeMACRONxKyRAINIAN IExNBLENDED UK",
   "wVEwWExIDE ESwYAyEyTxERUzb WITH BACK YERzhDIAERESISxIxNxUwZEy WITH DESCENDERzgIAERESISyMLYAxHE",
   "z WITH BREVEzgDESCENDERzhIAERESISyWEqIGATURE A IEyEN GHEyTE TSEjTHOUSANDS SIGN"]

end SolidityAtlas.Text.CharacterNames
